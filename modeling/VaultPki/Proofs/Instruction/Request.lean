import VaultPki.Proofs.Endpoint
import VaultPki.Proofs.Instruction.Body
import VaultPki.Proofs.Request
import VaultPki.Proofs.Role.RoundTrip

/-!
# What a request tells of options

Two requests are the same only for the same options. What the body does not say, the path does:
whether a key is given out. Alternative names of three sorts are known as the texts that they are
joined to.
-/

namespace VaultPki

/-! ## Bodies -/

/-- Whether nothing that is sent of alternative names tells them apart: those that are sent as one
text are absent together or joined to the same text, and the others are the same. -/
structure AlternativeNames.AreSentAlike (n n' : AlternativeNames) : Prop where
  names : n.names.map Text.Commas.join = n'.names.map Text.Commas.join
  addresses : n.addresses.map Text.Commas.join = n'.addresses.map Text.Commas.join
  uris : n.uris.map Text.Commas.join = n'.uris.map Text.Commas.join
  others : n.others = n'.others
  excludeCommonName : n.excludeCommonName = n'.excludeCommonName

theorem AlternativeNames.wire_eq_iff {n n' : AlternativeNames} :
    n.wire = n'.wire ↔ n.AreSentAlike n' := by
  rw [wire, wire, Wire.mk.injEq]
  constructor
  · rintro ⟨hnames, haddresses, huris, hothers, hexclude⟩
    exact ⟨hnames, haddresses, huris, hothers, hexclude⟩
  · rintro ⟨hnames, haddresses, huris, hothers, hexclude⟩
    exact ⟨hnames, haddresses, huris, hothers, hexclude⟩

theorem Issuance.Body.ofOptions_eq_iff {o o' : LeafOptions} :
    ofOptions o = ofOptions o' ↔
      o' = { o with alternativeNames := o'.alternativeNames } ∧
        o.alternativeNames.AreSentAlike o'.alternativeNames := by
  obtain ⟨commonName, names, ttl⟩ := o
  obtain ⟨commonName', names', ttl'⟩ := o'
  simp only [ofOptions, mk.injEq, LeafOptions.mk.injEq, AlternativeNames.wire_eq_iff]
  grind

theorem Signing.Body.ofOptions_eq_iff {request request' : String} {o o' : LeafOptions} :
    ofOptions request o = ofOptions request' o' ↔
      request' = request ∧ o' = { o with alternativeNames := o'.alternativeNames } ∧
        o.alternativeNames.AreSentAlike o'.alternativeNames := by
  obtain ⟨commonName, names, ttl⟩ := o
  obtain ⟨commonName', names', ttl'⟩ := o'
  simp only [ofOptions, mk.injEq, LeafOptions.mk.injEq, AlternativeNames.wire_eq_iff]
  grind

/-- What the body of a request for a root does not tell is whether the key is given out. -/
theorem RootGeneration.Body.ofOptions_eq_iff {o o' : RootOptions} :
    ofOptions o = ofOptions o' ∧ o.key.exported = o'.key.exported ↔
      o' = { o with alternativeNames := o'.alternativeNames } ∧
        o.alternativeNames.AreSentAlike o'.alternativeNames := by
  obtain ⟨commonName, subject, names, ttl, ⟨keyType, bits, exported⟩, length, domains⟩ := o
  obtain ⟨commonName', subject', names', ttl', ⟨keyType', bits', exported'⟩, length',
    domains'⟩ := o'
  simp only [ofOptions, mk.injEq, RootOptions.mk.injEq, KeyGeneration.mk.injEq,
    KeyType.map_wire_inj, AlternativeNames.wire_eq_iff]
  grind

theorem RequestGeneration.Body.ofOptions_eq_iff {o o' : RequestOptions} :
    ofOptions o = ofOptions o' ∧ o.key.exported = o'.key.exported ↔
      o' = { o with alternativeNames := o'.alternativeNames } ∧
        o.alternativeNames.AreSentAlike o'.alternativeNames := by
  obtain ⟨commonName, subject, names, ⟨keyType, bits, exported⟩⟩ := o
  obtain ⟨commonName', subject', names', ⟨keyType', bits', exported'⟩⟩ := o'
  simp only [ofOptions, mk.injEq, RequestOptions.mk.injEq, KeyGeneration.mk.injEq,
    KeyType.map_wire_inj, AlternativeNames.wire_eq_iff]
  grind

theorem IntermediateSigning.Body.ofOptions_eq_iff {request request' : String}
    {o o' : IntermediateOptions} :
    ofOptions request o = ofOptions request' o' ↔
      request' = request ∧ o' = { o with alternativeNames := o'.alternativeNames } ∧
        o.alternativeNames.AreSentAlike o'.alternativeNames := by
  obtain ⟨commonName, subject, names, ttl, length, keep, domains⟩ := o
  obtain ⟨commonName', subject', names', ttl', length', keep', domains'⟩ := o'
  simp only [ofOptions, mk.injEq, IntermediateOptions.mk.injEq, AlternativeNames.wire_eq_iff]
  grind

theorem KeyGeneration.segment_eq {key key' : KeyGeneration} (h : key.exported = key'.exported) :
    key.segment = key'.segment := by
  rw [segment, segment, h]

namespace Instruction

/-- Whether options are the same, but for alternative names, which need only be sent alike. -/
def Agree : (k : Instruction) → k.Options → k.Options → Prop
  | issue _, o, o' =>
    o' = { o with alternativeNames := o'.alternativeNames } ∧
      o.alternativeNames.AreSentAlike o'.alternativeNames
  | sign _, (request, o), (request', o') =>
    request' = request ∧ o' = { o with alternativeNames := o'.alternativeNames } ∧
      o.alternativeNames.AreSentAlike o'.alternativeNames
  | generateRoot, o, o' =>
    o' = { o with alternativeNames := o'.alternativeNames } ∧
      o.alternativeNames.AreSentAlike o'.alternativeNames
  | generateRequest, o, o' =>
    o' = { o with alternativeNames := o'.alternativeNames } ∧
      o.alternativeNames.AreSentAlike o'.alternativeNames
  | signIntermediate, (request, o), (request', o') =>
    request' = request ∧ o' = { o with alternativeNames := o'.alternativeNames } ∧
      o.alternativeNames.AreSentAlike o'.alternativeNames
  | writeRole _, role, role' => role = role'
  | writeUrls, urls, urls' => urls = urls'
  | writeRevocationListSettings, settings, settings' => settings = settings'
  | tidy, o, o' => o = o'
  | enable, (description, leases), (description', leases') =>
    description = description' ∧ leases = leases'

/-- Whether the key is given out, which the path says. -/
def exported? : (k : Instruction) → k.Options → Option Bool
  | generateRoot, o => some o.key.exported
  | generateRequest, o => some o.key.exported
  | _, _ => none

variable {k : Instruction} {o o' : k.Options}

theorem agree_iff : k.value o = k.value o' ∧ k.exported? o = k.exported? o' ↔ k.Agree o o' := by
  cases k with
  | issue role => exact (and_iff_left rfl).trans Issuance.Body.ofOptions_eq_iff
  | sign role => exact (and_iff_left rfl).trans Signing.Body.ofOptions_eq_iff
  | generateRoot =>
    refine Iff.trans (and_congr_right fun _ => ?_) RootGeneration.Body.ofOptions_eq_iff
    exact Option.some_inj
  | generateRequest =>
    refine Iff.trans (and_congr_right fun _ => ?_) RequestGeneration.Body.ofOptions_eq_iff
    exact Option.some_inj
  | signIntermediate => exact (and_iff_left rfl).trans IntermediateSigning.Body.ofOptions_eq_iff
  | writeRole name => exact (and_iff_left rfl).trans Role.stored_inj
  | writeUrls => exact and_iff_left rfl
  | writeRevocationListSettings => exact and_iff_left rfl
  | tidy => exact and_iff_left rfl
  | enable =>
    refine (and_iff_left rfl).trans ?_
    show Enabling.ofOptions o.1 o.2 = Enabling.ofOptions o'.1 o'.2 ↔ o.1 = o'.1 ∧ o.2 = o'.2
    simp [Enabling.ofOptions]

/-! ## Targets -/

variable {text : String} {c : Client} {mount token token' : String} {q q' : Http.Request}

theorem request_eq (hq : ((k.call o).operation mount).request c token = .ok q) :
    q.target = (c.config.address ((k.call o).operation mount).path).pathText ++
        Url.marked "?" c.config.server.query ∧
      q.body = some (k.record.layout.write (k.value o)) := by
  obtain ⟨headers, rfl⟩ := Client.exists_headers_of_request hq
  obtain ⟨hverb, hbody⟩ := operation_call k o mount
  rw [hverb, hbody]
  refine ⟨?_, rfl⟩
  show Url.target (c.config.address _) = _
  rw [Url.target, Client.query_address]

theorem path_eq_of_exported (h : k.exported? o = k.exported? o') :
    ((k.call o).operation mount).path = ((k.call o').operation mount).path := by
  cases k with
  | generateRoot =>
    exact congrArg (fun s => Call.mountPath mount ("root/generate/" ++ s))
      (KeyGeneration.segment_eq (Option.some.inj h))
  | generateRequest =>
    exact congrArg (fun s => Call.mountPath mount ("intermediate/generate/" ++ s))
      (KeyGeneration.segment_eq (Option.some.inj h))
  | _ => rfl

theorem target_eq_iff (hserver : Url.ofText text = .ok c.config.server)
    (hq : ((k.call o).operation mount).request c token = .ok q)
    (hq' : ((k.call o').operation mount).request c token' = .ok q') :
    q.target = q'.target ↔ k.exported? o = k.exported? o' := by
  have hweb := (Client.canAsk_of_request hq).onWeb
  rw [(request_eq hq).1, (request_eq hq').1, String.append_left_inj]
  constructor
  · intro h
    cases k with
    | generateRoot =>
      have hend (o : RootOptions) : (Call.generateRoot o).endpoint? =
          some (.fixed (.generateRoot o.key.exported)) := rfl
      have hplain (o : RootOptions) : (Call.generateRoot o).HasPlainName := nofun
      have he := Call.endpoint_eq_of_pathText hserver hweb (hend o) (hend o') rfl (hplain o)
        (hplain o') h
      exact congrArg some (FixedEndpoint.generateRoot.inj (Endpoint.fixed.inj he))
    | generateRequest =>
      have hend (o : RequestOptions) : (Call.generateRequest o).endpoint? =
          some (.fixed (.generateRequest o.key.exported)) := rfl
      have hplain (o : RequestOptions) : (Call.generateRequest o).HasPlainName := nofun
      have he := Call.endpoint_eq_of_pathText hserver hweb (hend o) (hend o') rfl (hplain o)
        (hplain o') h
      exact congrArg some (FixedEndpoint.generateRequest.inj (Endpoint.fixed.inj he))
    | _ => rfl
  · intro h
    rw [path_eq_of_exported h]

/-! ## Requests -/

theorem request_of_mem {net : Http.Network} {answer : Except Error String}
    (hq : q ∈ ((k.call o).perform c net mount answer).requests) :
    ∃ token, ((k.call o).operation mount).request c token = .ok q := by
  cases answer with
  | error e =>
    rw [Call.perform_error, Call.settle_requests] at hq
    cases hq
  | ok token => exact ⟨token, Call.request_of_mem_requests hq⟩

/-- Whatever options a call is given, its request has them in its body, and no two requests of a
call on one mount are the same unless the options are, but for the elements of names that are
joined. -/
theorem request_eq_iff_agree (hserver : Url.ofText text = .ok c.config.server) (k : Instruction)
    (mount : String) :
    (∀ (o : k.Options) (net : Http.Network) (answer : Except Error String),
      ∀ q ∈ ((k.call o).perform c net mount answer).requests,
        ∃ ms, q.body = some (.object ms) ∧ k.IsBody o ms) ∧
    ∀ (o o' : k.Options) (net net' : Http.Network) (answer answer' : Except Error String),
      ∀ q ∈ ((k.call o).perform c net mount answer).requests,
      ∀ q' ∈ ((k.call o').perform c net' mount answer').requests,
        q.target = q'.target ∧ q.body = q'.body ↔ k.Agree o o' := by
  constructor
  · intro o net answer q hq
    obtain ⟨token, hq⟩ := request_of_mem hq
    obtain ⟨ms, hwrite, hbody⟩ := k.exists_isBody o
    exact ⟨ms, by rw [(request_eq hq).2, hwrite], hbody⟩
  · intro o o' net net' answer answer' q hq q' hq'
    obtain ⟨token, hq⟩ := request_of_mem hq
    obtain ⟨token', hq'⟩ := request_of_mem hq'
    have hbody : q.body = q'.body ↔ k.value o = k.value o' := by
      rw [(request_eq hq).2, (request_eq hq').2, Option.some_inj]
      exact k.record.layout_isFaithful.codec_isSolid.write_inj
    rw [target_eq_iff hserver hq hq', hbody, and_comm, agree_iff]

/-- Two names, and one that looks like both; and the second with its key given out. -/
def twoNames : RootOptions := { alternativeNames := { names := some ["a", "b"] } }

def oneName : RootOptions := { alternativeNames := { names := some ["a,b"] } }

def oneNameExported : RootOptions := { oneName with key := { exported := true } }

/-- The first two send the same, and the third does not. -/
theorem generateRoot_of_names :
    Url.ofText "http://[::1]:8200/vault/" = .ok Call.loopback.config.server ∧
    ∃ q q' q'',
      ((Call.generateRoot twoNames).perform Call.loopback (fun _ => .closed) "pki"
        (.ok "s.token")).requests = [q] ∧
      ((Call.generateRoot oneName).perform Call.loopback (fun _ => .closed) "pki"
        (.ok "s.token")).requests = [q'] ∧
      ((Call.generateRoot oneNameExported).perform Call.loopback (fun _ => .closed) "pki"
        (.ok "s.token")).requests = [q''] ∧
      (q.target = q'.target ∧ q.body = q'.body) ∧
      ¬(q'.target = q''.target ∧ q'.body = q''.body) := by
  obtain ⟨q, hq⟩ := Call.exists_request_of_closed (.generateRoot twoNames) "pki"
  obtain ⟨q', hq'⟩ := Call.exists_request_of_closed (.generateRoot oneName) "pki"
  obtain ⟨q'', hq''⟩ := Call.exists_request_of_closed (.generateRoot oneNameExported) "pki"
  have hiff := (request_eq_iff_agree Call.ofText_loopback .generateRoot "pki").2
  refine ⟨Call.ofText_loopback, q, q', q'', hq, hq', hq'', ?_, ?_⟩
  · apply (hiff twoNames oneName _ _ _ _ q (hq ▸ List.mem_singleton_self q) q'
      (hq' ▸ List.mem_singleton_self q')).2
    exact ⟨rfl, ⟨by decide, rfl, rfl, rfl, rfl⟩⟩
  · rw [hiff oneName oneNameExported _ _ _ _ q' (hq' ▸ List.mem_singleton_self q') q''
      (hq'' ▸ List.mem_singleton_self q'')]
    rintro ⟨hsame, -⟩
    have hkey : oneNameExported.key = oneName.key := congrArg RootOptions.key hsame
    exact absurd (congrArg KeyGeneration.exported hkey) (by decide)

end Instruction

end VaultPki

import VaultPki.Proofs.Confidentiality.Answer
import VaultPki.Proofs.Session

/-!
# Sessions that differ in secrets

Two sessions take the same steps, but with other tokens, another namespace, other values in
additional headers, other bodies, and answers that hold other keys and certificates. They report the
same, from the making of the client to the last step. What is shown of values that hold such secrets
is the same as well.
-/

namespace VaultPki

/-! ## What may differ -/

/-- Whether two attempts to connect come to the same but for secrets in answers. -/
inductive Http.Outcome.Alike (names : List String) : Http.Outcome → Http.Outcome → Prop
  | answered {r r' : Http.Response} (h : r.Alike names r') :
    Alike names (.answered r) (.answered r')
  | closed : Alike names .closed .closed
  | unreachable : Alike names .unreachable .unreachable

/-- Whether two networks answer requests alike that have the same method and target. -/
def Http.Network.Alike (names : List String) (net net' : Http.Network) : Prop :=
  ∀ q q', q.method = q'.method → q.target = q'.target → Http.Outcome.Alike names (net q) (net' q')

/-- Whether a token can be sent. -/
def IsUsable (token : String) : Prop :=
  token ≠ "" ∧ Http.isHeaderValue token = true

/-- Whether a source has the same errors and otherwise tokens that can be sent. -/
inductive TokenSource.Alike : TokenSource → TokenSource → Prop
  | fixed {token token' : String} (h : IsUsable token) (h' : IsUsable token') :
    Alike (.fixed token) (.fixed token')
  | handed {answers answers' : List (Except Error String)}
      (h : List.Forall₂ (Attempt.Alike fun token token' => IsUsable token ∧ IsUsable token')
        answers answers') : Alike (.handed answers) (.handed answers')

/-- Whether configurations are the same but for the namespace and the values of additional headers,
which are as fit for a header as each other. -/
structure Config.Alike (c c' : Config) : Prop where
  server : c.server = c'.server
  identity : c.identity = c'.identity
  trust : c.trust = c'.trust
  timeout : c.timeout = c'.timeout
  serverNamespace : Option.Rel (fun s s' => Http.isHeaderValue s = Http.isHeaderValue s')
    c.serverNamespace c'.serverNamespace
  headers : List.Forall₂
    (fun h h' => h.1 = h'.1 ∧ Http.isHeaderValue h.2 = Http.isHeaderValue h'.2)
    c.headers c'.headers

/-- Whether calls are the same but for what stands in the body of their request. Names, and whether
a key is given out, stand in the path. -/
inductive Call.Alike : Call → Call → Prop
  | same (call : Call) : Alike call call
  | issue {role : String} {o o' : LeafOptions} : Alike (issue role o) (issue role o')
  | sign {role request request' : String} {o o' : LeafOptions} :
    Alike (sign role request o) (sign role request' o')
  | revoke {serial serial' : String} : Alike (revoke serial) (revoke serial')
  | installBundle {pem pem' : String} : Alike (installBundle pem) (installBundle pem')
  | writeUrls {urls urls' : PublishedUrls} : Alike (writeUrls urls) (writeUrls urls')
  | writeRevocationListSettings {s s' : RevocationListSettings} :
    Alike (writeRevocationListSettings s) (writeRevocationListSettings s')
  | tidy {o o' : TidyOptions} : Alike (tidy o) (tidy o')
  | writeRole {name : String} {role role' : Role} :
    Alike (writeRole name role) (writeRole name role')
  | generateRoot {o o' : RootOptions} (h : o.key.exported = o'.key.exported) :
    Alike (generateRoot o) (generateRoot o')
  | signIntermediate {request request' : String} {o o' : IntermediateOptions} :
    Alike (signIntermediate request o) (signIntermediate request' o')
  | generateRequest {o o' : RequestOptions} (h : o.key.exported = o'.key.exported) :
    Alike (generateRequest o) (generateRequest o')
  | installIntermediate {certificate certificate' : String} :
    Alike (installIntermediate certificate) (installIntermediate certificate')
  | enable {description description' : String} {leases leases' : LeaseOptions} :
    Alike (enable description leases) (enable description' leases')

/-- Whether raw calls are the same but for the body of their request. -/
inductive RawCall.Alike : RawCall → RawCall → Prop
  | read {path : String} : Alike (read path) (read path)
  | list {path : String} : Alike (list path) (list path)
  | write {path : String} {body body' : Json} : Alike (write path body) (write path body')
  | writeOnly {path : String} {body body' : Json} {expected : Nat} :
    Alike (writeOnly path body expected) (writeOnly path body' expected)
  | delete {path : String} {expected : Nat} : Alike (delete path expected) (delete path expected)

/-- Whether steps are the same but for what they send and the secrets in what they get. Each step
has a network of its own, which stands for the one answer that its one request gets. -/
inductive Step.Alike : Step × Http.Network → Step × Http.Network → Prop
  | call {mount : String} {call call' : Call} {net net' : Http.Network} (hcall : call.Alike call')
      (hnet : net.Alike (call.dataNames mount) net') :
    Alike (.call mount call, net) (.call mount call', net')
  | raw {token token' : String} {call call' : RawCall} {net net' : Http.Network}
      (ht : IsUsable token) (ht' : IsUsable token') (hcall : call.Alike call')
      (hnet : net.Alike [] net') : Alike (.raw token call, net) (.raw token' call', net')
  | bind {mount : String} {net net' : Http.Network} :
    Alike (.bind mount, net) (.bind mount, net')

/-! ## Requests -/

/-- Whether reports tell the same events, with results of which a relation holds. -/
structure Report.Alike {α β : Type} (E : Except Error α → Except Error β → Prop) (r : Report α)
    (r' : Report β) : Prop where
  events : r.events = r'.events
  result : E r.result r'.result

namespace Client

variable {c c' : Client} {token token' : String}

theorem authHeaders_alike (h : c.config.Alike c'.config) (ht : IsUsable token)
    (ht' : IsUsable token') :
    Attempt.Alike (fun _ _ => True) (c.authHeaders token) (c'.authHeaders token') := by
  have hspace := h.serverNamespace
  rw [authHeaders, authHeaders, if_pos ht.2, if_pos ht'.2]
  generalize c.config.serverNamespace = s at hspace ⊢
  generalize c'.config.serverNamespace = s' at hspace ⊢
  cases hspace with
  | none => exact .ok trivial
  | some hvalid =>
    simp only [hvalid]
    split
    · exact .ok trivial
    · exact .error _

theorem request_alike (h : c.config.Alike c'.config) (ht : IsUsable token)
    (ht' : IsUsable token') (verb : Verb) (u : Url) (body body' : Option Json) :
    Attempt.Alike (fun q q' => q.method = q'.method ∧ q.target = q'.target)
      (c.request verb u token body) (c'.request verb u token' body') := by
  refine (authHeaders_alike h ht ht').bind fun auth auth' _ => ?_
  split
  · exact .ok ⟨rfl, rfl⟩
  · exact .error _

theorem address_congr (h : c.config.Alike c'.config) (path : String) :
    c.config.address path = c'.config.address path := by
  rw [Config.address, Config.address, h.server]

variable {α β : Type} {E : Except Error α → Except Error β → Prop} {names : List String}
  {net net' : Http.Network}

/-- What is sent differs in nothing that is reported, and neither does what is made of the
answers. -/
theorem send_bind_alike (h : c.config.Alike c'.config) (ht : IsUsable token)
    (ht' : IsUsable token') (hnet : net.Alike names net') (hE : ∀ e, E (.error e) (.error e))
    {f : Http.Response → Report α} {f' : Http.Response → Report β}
    (hf : ∀ r r', r.Alike names r' → (f r).Alike E (f' r')) (verb : Verb) (path : String)
    (body body' : Option Json) :
    (c.send net token verb path body >>= f).Alike E
      (c'.send net' token' verb path body' >>= f') := by
  have hrequest := request_alike h ht ht' verb (c.config.address path) body body'
  rw [send, send, ← address_congr h path]
  generalize c.request verb (c.config.address path) token body = x at hrequest ⊢
  generalize c'.request verb (c.config.address path) token' body' = y at hrequest ⊢
  cases hrequest with
  | error e => exact ⟨rfl, hE e⟩
  | @ok q q' hq =>
    have houtcome := hnet q q' hq.1 hq.2
    show ((deliver net q).behind [] [.started verb (c.config.address path).pathText] >>= f).Alike E
      ((deliver net' q').behind [] [.started verb (c.config.address path).pathText] >>= f')
    rw [deliver, deliver]
    generalize net q = outcome at houtcome ⊢
    generalize net' q' = outcome' at houtcome ⊢
    cases houtcome with
    | answered hr =>
      have hreport := hf _ _ hr
      refine ⟨?_, hreport.result⟩
      show Event.started verb _ :: (f _).events = Event.started verb _ :: (f' _).events
      rw [hreport.events]
    | closed => exact ⟨rfl, hE .http⟩
    | unreachable => exact ⟨rfl, hE .http⟩

end Client

/-! ## Calls -/

namespace Call

variable {call call' : Call} {c c' : Client} {net net' : Http.Network} {mount : String}

theorem Alike.verb_eq (h : call.Alike call') (mount : String) :
    (call.operation mount).verb = (call'.operation mount).verb := by
  cases h <;> rfl

theorem Alike.path_eq (h : call.Alike call') (mount : String) :
    (call.operation mount).path = (call'.operation mount).path := by
  cases h with
  | generateRoot h | generateRequest h =>
    simp only [operation, noting, asking, KeyGeneration.segment, h]
  | _ => rfl

theorem Alike.probed_error (h : call.Alike call') (mount : String) (e : Error) :
    call.probed mount (.error e) = call'.probed mount (.error e) := by
  cases h <;> rfl

/-- What is made of an answer does not depend on the body of the request. -/
theorem Alike.conclude_eq (h : call.Alike call') (mount : String) (r : Http.Response) :
    ((call.operation mount).conclude r).events = ((call'.operation mount).conclude r).events ∧
      call.probed mount ((call.operation mount).conclude r).result =
        call'.probed mount ((call'.operation mount).conclude r).result := by
  cases h <;> exact ⟨rfl, rfl⟩

theorem perform_events_congr (hcall : call.Alike call') (hconfig : c.config.Alike c'.config)
    (hnet : net.Alike (call.dataNames mount) net') {answer answer' : Except Error String}
    (hanswer : Attempt.Alike (fun token token' => IsUsable token ∧ IsUsable token') answer
      answer') :
    (call.perform c net mount answer).events = (call'.perform c' net' mount answer').events := by
  cases hanswer with
  | error e =>
    rw [perform_error, perform_error, settle_events, settle_events, hcall.probed_error]
  | ok h =>
    have hconclude (r r' : Http.Response) (hr : r.Alike (call.dataNames mount) r') :
        ((call.operation mount).conclude r).Alike
          (fun x x' => call.probed mount x = call'.probed mount x')
          ((call'.operation mount).conclude r') := by
      obtain ⟨hevents, hprobed⟩ := conclude_congr hr
      obtain ⟨hevents', hprobed'⟩ := hcall.conclude_eq mount r'
      exact ⟨hevents.trans hevents', hprobed.trans hprobed'⟩
    have hperform := Client.send_bind_alike hconfig h.1 h.2 hnet (hcall.probed_error mount)
      hconclude (call.operation mount).verb (call.operation mount).path
      (call.operation mount).body (call'.operation mount).body
    rw [perform_ok, perform_ok, settle_events, settle_events, Operation.perform_eq_send_bind,
      Operation.perform_eq_send_bind, ← hcall.verb_eq, ← hcall.path_eq]
    rw [hperform.events, hperform.result]

end Call

theorem Answer.readEnvelope_events_congr {α : Type}
    (decode : List UInt8 → Except Error (Envelope α)) {names : List String}
    {r r' : Http.Response} (h : r.Alike names r') :
    (readEnvelope decode r).events = (readEnvelope decode r').events := by
  cases hs : r.isSuccess with
  | false => rw [h.eq_of_refusal hs]
  | true =>
    have hs' : r'.isSuccess = true := h.isSuccess_eq ▸ hs
    cases hc : r.complete with
    | false => rw [readEnvelope_cut_short hs hc, readEnvelope_cut_short hs' (h.complete ▸ hc)]
    | true =>
      rw [readEnvelope_complete hs hc, readEnvelope_complete hs' (h.complete ▸ hc)]
      rfl

theorem RawCall.perform_events_congr {call call' : RawCall} {c c' : Client}
    {net net' : Http.Network} {token token' : String} (hcall : call.Alike call')
    (hconfig : c.config.Alike c'.config) (ht : IsUsable token) (ht' : IsUsable token')
    (hnet : net.Alike [] net') :
    (call.perform c net token).events = (call'.perform c' net' token').events := by
  have henveloped (verb : Verb) (path : String) (body body' : Option Json) :
      (enveloped c net token verb path body).events =
        (enveloped c' net' token' verb path body').events := by
    refine (Client.send_bind_alike (E := fun _ _ => True) hconfig ht ht' hnet (fun _ => trivial)
      (fun r r' h => ?_) verb path body body').events
    exact ⟨Answer.readEnvelope_events_congr _ h, trivial⟩
  have hconfirmed (verb : Verb) (path : String) (body body' : Option Json) (expected : Nat) :
      (confirmed c net token verb path body expected).events =
        (confirmed c' net' token' verb path body' expected).events := by
    refine (Client.send_bind_alike (E := fun _ _ => True) hconfig ht ht' hnet (fun _ => trivial)
      (fun r r' h => ?_) verb path body body').events
    rw [Call.confirm_congr h]
    exact ⟨rfl, trivial⟩
  cases hcall with
  | read => exact henveloped _ _ _ _
  | list => exact henveloped _ _ _ _
  | write => exact henveloped _ _ _ _
  | writeOnly => exact hconfirmed _ _ _ _ _
  | delete => exact hconfirmed _ _ _ _ _

/-! ## Sessions -/

theorem Client.ignored_congr {added added' : List (String × String)}
    (h : List.Forall₂ (fun h h' => h.1 = h'.1 ∧ Http.isHeaderValue h.2 = Http.isHeaderValue h'.2)
      added added') : ignored added = ignored added' := by
  induction h with
  | nil => rfl
  | @cons header header' added added' hheader _ ih =>
    have hfit : isHeader header = isHeader header' := by
      rw [isHeader, isHeader, hheader.1, hheader.2]
    rw [ignored, ignored] at ih
    rw [ignored, ignored, List.filter_cons, List.filter_cons, hfit]
    split
    · rw [List.map_cons, List.map_cons, ih, hheader.1]
    · exact ih

theorem Client.ofConfig_alike {config config' : Config} (h : config.Alike config') :
    (ofConfig config).Alike (Attempt.Alike fun c c' => c.config.Alike c'.config)
      (ofConfig config') := by
  rw [ofConfig, ofConfig, h.trust, h.identity, ignored_congr h.headers]
  cases checkTrust config'.trust with
  | error e => exact ⟨rfl, .error e⟩
  | ok u =>
    cases checkIdentity config'.identity with
    | error e => exact ⟨rfl, .error e⟩
    | ok u => exact ⟨rfl, .ok h⟩

theorem TokenSource.Alike.next {tokens tokens' : TokenSource} (h : tokens.Alike tokens') :
    Attempt.Alike (fun token token' => IsUsable token ∧ IsUsable token') tokens.next.1
        tokens'.next.1 ∧ tokens.next.2.Alike tokens'.next.2 := by
  cases h with
  | @fixed token token' ht ht' =>
    rw [TokenSource.next_fixed ht.1, TokenSource.next_fixed ht'.1]
    exact ⟨.ok ⟨ht, ht'⟩, .fixed ht ht'⟩
  | handed h =>
    cases h with
    | nil => exact ⟨.error _, .handed .nil⟩
    | cons ha hrest => exact ⟨ha, .handed hrest⟩

namespace Session

/-- Everything that a session reports, from the making of its client on. -/
def log (config : Config) (tokens : TokenSource) (steps : List (Step × Http.Network)) :
    List Event :=
  (Client.ofConfig config).events ++
    match (Client.ofConfig config).result with
    | .ok c => (run c tokens steps).flatMap fun entry => entry.report.events
    | .error _ => []

theorem run_events_congr {c c' : Client} (hconfig : c.config.Alike c'.config)
    {tokens tokens' : TokenSource} (htokens : tokens.Alike tokens')
    {steps steps' : List (Step × Http.Network)} (hsteps : List.Forall₂ Step.Alike steps steps') :
    ((run c tokens steps).flatMap fun entry => entry.report.events) =
      (run c' tokens' steps').flatMap fun entry => entry.report.events := by
  -- The sources are general: each step leaves sources that are alike again.
  induction hsteps generalizing tokens tokens' with
  | nil => rfl
  | @cons s s' steps steps' hs _ ih =>
    cases hs with
    | call hcall hnet =>
      obtain ⟨hanswer, hrest⟩ := htokens.next
      exact congrArg₂ (· ++ ·) (Call.perform_events_congr hcall hconfig hnet hanswer) (ih hrest)
    | raw ht ht' hcall hnet =>
      exact congrArg₂ (· ++ ·) (RawCall.perform_events_congr hcall hconfig ht ht' hnet) (ih htokens)
    | bind => exact ih htokens

end Session

/-! ## What is shown -/

/-- Whether configurations are the same but for the bytes of an identity, the bundles that are
believed, of which there are as many, and the additional headers. -/
structure Config.LooksAlike (c c' : Config) : Prop where
  server : c.server = c'.server
  serverNamespace : c.serverNamespace = c'.serverNamespace
  identity : c.identity.isSome = c'.identity.isSome
  trust : c.trust = c'.trust ∨ ∃ pems pems', c.trust = .bundles pems ∧ c'.trust = .bundles pems' ∧
    pems.length = pems'.length
  timeout : c.timeout = c'.timeout

theorem Config.LooksAlike.shown_eq {c c' : Config} (h : c.LooksAlike c') : c.shown = c'.shown := by
  have htrust : c.trust.shown = c'.trust.shown := by
    rcases h.trust with htrust | ⟨pems, pems', htrust, htrust', hlength⟩
    · rw [htrust]
    · rw [htrust, htrust', Trust.shown, Trust.shown, hlength]
  rw [shown, shown, h.server, h.serverNamespace, h.identity, htrust, h.timeout]

namespace Session

/-- Secrets do not show. Two sessions that take the same steps report the same, whatever tokens they
use, whatever namespace and additional headers they send, whatever stands in the bodies of their
requests, and whatever keys and certificates are in the answers. What is shown of a certificate or
a request with its key does not depend on the key; what is shown of a configuration, a source of
tokens or an engine does not depend on identities, bundles, headers or tokens. -/
theorem log_eq_of_alike {config config' : Config} {tokens tokens' : TokenSource}
    {steps steps' : List (Step × Http.Network)} (hconfig : config.Alike config')
    (htokens : tokens.Alike tokens') (hsteps : List.Forall₂ Step.Alike steps steps') :
    log config tokens steps = log config' tokens' steps' ∧
      (∀ (c : IssuedCertificate) (key key' : String),
        { c with key := some key }.shown = { c with key := some key' }.shown) ∧
      (∀ (c : RootCertificate) (key key' : String),
        { c with key := some key }.shown = { c with key := some key' }.shown) ∧
      (∀ (r : IntermediateRequest) (key key' : String),
        { r with key := some key }.shown = { r with key := some key' }.shown) ∧
      (∀ c c' : Config, c.LooksAlike c' → c.shown = c'.shown) ∧
      (∀ token token', (TokenSource.fixed token).shown = (TokenSource.fixed token').shown) ∧
      ∀ mount (c c' : Client) net net' (tokens tokens' : TokenSource),
        ((Step.bind mount).perform c net tokens).1.result.map Engine.shown =
          ((Step.bind mount).perform c' net' tokens').1.result.map Engine.shown := by
  refine ⟨?_, fun _ _ _ => rfl, fun _ _ _ => rfl, fun _ _ _ => rfl, fun _ _ h => h.shown_eq,
    fun _ _ => rfl, fun _ _ _ _ _ _ _ => rfl⟩
  have hclient := Client.ofConfig_alike hconfig
  have hresult := hclient.result
  rw [log, log, hclient.events]
  generalize (Client.ofConfig config).result = x at hresult ⊢
  generalize (Client.ofConfig config').result = y at hresult ⊢
  cases hresult with
  | error e => rfl
  | ok hc => exact congrArg _ (run_events_congr hc htokens hsteps)

/-- A configuration with a namespace and a header of a given value. -/
def configOf (name value : String) : Config :=
  { Config.standard with serverNamespace := some name, headers := [("x-team", value)] }

/-- The step that makes a root, whose key is given out. -/
def rootStep (name : String) : Step :=
  .call "pki" (.generateRoot { commonName := some name, key := { exported := true } })

/-- A network that answers with a root and its key. -/
def rootNetwork (key : String) : Http.Network :=
  fun _ => .answered ⟨200, Text.Utf8.encode
    ("\x7b\"data\":\x7b\"private_key\":\"" ++ key ++ "\",\"serial_number\":\"1a\"\x7d\x7d"), true⟩

theorem rootStep_alike :
    Step.Alike (rootStep "a", rootNetwork "K1") (rootStep "b", rootNetwork "K2") := by
  refine .call (.generateRoot rfl) fun q q' _ _ => .answered ⟨rfl, rfl, fun h => ?_, ?_, ?_, ?_⟩
  · cases h
  · cbv
  · cbv
  · cbv

/-- Neither the tokens nor the keys of two roots are told apart in what is reported. -/
theorem log_of_roots :
    log (configOf "a" "1") (.fixed "s.first") [(rootStep "a", rootNetwork "K1")] =
        [.started .write "/v1/pki/root/generate/exported", .done (.generatedRoot "1a") "pki"] ∧
      log (configOf "b" "2") (.fixed "s.second") [(rootStep "b", rootNetwork "K2")] =
        [.started .write "/v1/pki/root/generate/exported", .done (.generatedRoot "1a") "pki"] := by
  have hconfig : (configOf "a" "1").Alike (configOf "b" "2") :=
    ⟨rfl, rfl, rfl, rfl, .some (by decide), .cons ⟨rfl, by decide⟩ .nil⟩
  have htokens : (TokenSource.fixed "s.first").Alike (.fixed "s.second") :=
    .fixed ⟨by decide, by decide⟩ ⟨by decide, by decide⟩
  have hlog : log (configOf "a" "1") (.fixed "s.first") [(rootStep "a", rootNetwork "K1")] =
      [.started .write "/v1/pki/root/generate/exported", .done (.generatedRoot "1a") "pki"] := by
    decide +kernel
  exact ⟨hlog, (log_eq_of_alike hconfig htokens (.cons rootStep_alike .nil)).1 ▸ hlog⟩

end Session

end VaultPki

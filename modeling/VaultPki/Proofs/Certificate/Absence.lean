import VaultPki.Proofs.Certificate.Material
import VaultPki.Proofs.Certificate.Serial
import VaultPki.Proofs.Confidentiality.Answer
import VaultPki.Proofs.Name.Vocabulary
import VaultPki.Proofs.Record.Origin

/-!
# Absence in answers

However the data of a success say that a private key, a chain or a certificate is absent, a call
comes to the same. What is there is returned as it was sent.
-/

namespace VaultPki

open Record Material

/-- Whether two answers are the same but for how their data say that parts are absent. -/
structure Http.Response.SameBut (parts : List OptionalPart) (names : List String)
    (r r' : Http.Response) : Prop where
  complete : r.complete = r'.complete
  blank : r.body.all Text.Ascii.isBlankByte = r'.body.all Text.Ascii.isBlankByte
  complete_text : (Json.Text.ofBytes r.body).complete = (Json.Text.ofBytes r'.body).complete
  document :
    (Json.Text.ofBytes r.body).document.onData (OptionalPart.leaveOutAll parts names) =
      (Json.Text.ofBytes r'.body).document.onData (OptionalPart.leaveOutAll parts names)

/-! ## Envelopes -/

namespace Payload

variable {α : Type} {p : Payload α} {r r' : Http.Response}

/-- Whether data come to the same. -/
def SameResult (p : Payload α) (d d' : p.Data) : Prop :=
  p.interpret d = p.interpret d'

theorem alike_of_common {e e' common : Envelope p.Data}
    (h : Envelope.Alike p.SameResult e common) (h' : Envelope.Alike p.SameResult e' common) :
    Envelope.Alike p.SameResult e e' := by
  obtain ⟨data, warnings, errors⟩ := e
  obtain ⟨data', warnings', errors'⟩ := e'
  obtain ⟨dataCommon, warningsCommon, errorsCommon⟩ := common
  obtain ⟨hdata, rfl, rfl⟩ := h
  obtain ⟨hdata', rfl, rfl⟩ := h'
  refine ⟨?_, rfl, rfl⟩
  cases hdata with
  | none =>
    cases hdata'
    exact .none
  | some hd =>
    cases hdata' with
    | some hd' => exact .some (Eq.trans hd (Eq.symm hd'))

/-- Answers whose envelopes come to the same come to the same. -/
theorem Gives.of_alike {x : Except Error α} (hcomplete : r.complete = r'.complete)
    (hblank : r.body.all Text.Ascii.isBlankByte = r'.body.all Text.Ascii.isBlankByte)
    (hdecode : Attempt.Alike (Envelope.Alike p.SameResult) (p.decode r.body) (p.decode r'.body))
    (h : p.Gives r x) : p.Gives r' x := by
  cases h with
  | cutShort hc => exact .cutShort (hcomplete ▸ hc)
  | blank hc hb => exact .blank (hcomplete ▸ hc) (hblank ▸ hb)
  | malformed hc hb hd =>
    rw [hd] at hdecode
    generalize hd' : p.decode r'.body = y at hdecode
    cases hdecode
    exact .malformed (hcomplete ▸ hc) (hblank ▸ hb) hd'
  | @noData e hc hb hd hn =>
    rw [hd] at hdecode
    generalize hd' : p.decode r'.body = y at hdecode
    cases hdecode with
    | @ok _ e' he =>
      rw [he.warnings]
      refine .noData (hcomplete ▸ hc) (hblank ▸ hb) hd' ?_
      rw [← Envelope.data_eq_none_iff hd']
      rw [← Envelope.data_eq_none_iff hd] at hn
      have hdata := he.data
      rw [hn] at hdata
      generalize e'.data = o at hdata ⊢
      cases hdata
      rfl
  | @data e d hc hb hd hs =>
    rw [hd] at hdecode
    generalize hd' : p.decode r'.body = y at hdecode
    cases hdecode with
    | @ok _ e' he =>
      have hdata := he.data
      rw [hs] at hdata
      generalize hs' : e'.data = o at hdata
      cases hdata with
      | some hsame =>
        rw [show p.interpret d = _ from hsame]
        exact .data (hcomplete ▸ hc) (hblank ▸ hb) hd' hs'

end Payload

/-! ## Members and results -/

namespace Record.OptionalPart

/-- Whether a value counts and is what members say of a part, or there is none and they say that the
part is absent. -/
structure IsExact (part : OptionalPart) (ms : Members) (x : Option part.Value) : Prop where
  eq_iff : ∀ y, x = y ↔ part.IsSent ms y
  counts : ∀ value ∈ x, part.counts value = true

/-- What was read of a part, as far as it counts, is what was sent. -/
theorem isExact_of_mayHold {part : OptionalPart} {ms : Members} {o : Option part.Value}
    (h : MayHold ms part.name part.Stands o) : part.IsExact ms (o.filter part.counts) where
  eq_iff _ := (isSent_iff h).symm
  counts _ hvalue := (Option.filter_eq_some_iff.1 hvalue).2

end Record.OptionalPart

namespace Call

variable {call : Call} {c c' : Client} {net net' : Http.Network} {mount : String}
  {answer answer' : Except Error String} {r r' : Http.Response} {members : Members}

/-- The parts that the result of a call has, or lacks. -/
def returned : (call : Call) → call.Result → List ((part : OptionalPart) × Option part.Value)
  | readAuthority, s | readAuthorityChain, s | readRevocationList, s => [⟨certificate, some s⟩]
  | readCertificate _, o => [⟨certificate, o⟩]
  | issue _ _, v =>
    [⟨privateKey, IssuedCertificate.key v⟩, ⟨chain, presentChain? (IssuedCertificate.chain v)⟩]
  | sign _ _ _, v | signIntermediate _ _, v => [⟨chain, presentChain? (SignedCertificate.chain v)⟩]
  | generateRoot _, v => [⟨privateKey, RootCertificate.key v⟩]
  | generateRequest _, v => [⟨privateKey, IntermediateRequest.key v⟩]
  | _, _ => []

/-- The new certificate in the result of a call. -/
def newCertificate? : (call : Call) → call.Result → Option String
  | issue _ _, v => some (IssuedCertificate.certificate v)
  | sign _ _ _, v | signIntermediate _ _, v => some (SignedCertificate.certificate v)
  | generateRoot _, v => some (RootCertificate.certificate v)
  | _, _ => none

/-- Whether the result of a call has exactly the material that members have. -/
def IsAsSent (members : Members) (call : Call) (v : call.Result) : Prop :=
  (∀ x ∈ call.returned v, x.1.IsExact members x.2) ∧
    ∀ s ∈ call.newCertificate? v, Holds members "certificate" IsText (some "") s

/-- Whether there is no certificate under a serial number, as an error says. -/
def Lacks (mount serial : String) (members : Members) (e : Error) : Prop :=
  certificate.IsSent members none ∧ e = .noData ("No " ++ serial ++ " stored in " ++ mount)

/-- Whether a call fails over data with given members: there is no certificate under a fixed serial
number, or the type of a key is unknown. -/
def Declines (mount : String) (members : Members) (e : Error) : Call → Prop
  | readAuthority => Lacks mount "ca" members e
  | readAuthorityChain => Lacks mount "ca_chain" members e
  | readRevocationList => Lacks mount "crl" members e
  | issue _ _ | generateRoot _ | generateRequest _ =>
    ∃ name, keyType.IsSent members (some name) ∧ ¬Vocabulary.IsKnown KeyType name ∧
      e = .unknownName "key type" name
  | _ => False

/-- Whether a success delivers data for a call, with given members. -/
structure Delivers (mount : String) (call : Call) (r : Http.Response) (members : Members) :
    Prop where
  success : r.isSuccess = true
  complete : r.complete = true
  not_blank : r.body.all Text.Ascii.isBlankByte = false
  legible : ∃ p d, call.payload? mount = some p ∧ dataOf? p.layout r.body = some d
  members : ∃ d, named "data" ((Json.Text.ofBytes r.body).document.membersAs Envelope.names) = [d] ∧
    d.membersAs (call.dataNames mount) = members

/-- Answers that are the same but for how they say that parts are absent lead to the same. -/
theorem result_of_sameBut (hr : call.Receives c net mount answer r)
    (hr' : call.Receives c' net' mount answer' r') (hs : r.isSuccess = true)
    (hs' : r'.isSuccess = true) (h : r.SameBut call.optionalParts (call.dataNames mount) r') :
    (call.perform c net mount answer).result = (call.perform c' net' mount answer').result := by
  cases hp : call.payload? mount with
  | none =>
    obtain ⟨expected, value, hexit⟩ := exit_of_no_payload hp
    rw [perform_result_of_receives hr, perform_result_of_receives hr', hexit,
      Exit.read_confirmation_of_success hs, Exit.read_confirmation_of_success hs']
  | some p =>
    rw [dataNames, hp] at h
    have hdata : p.layout.codec.OverlooksAt 126
        (OptionalPart.leaveOutAll call.optionalParts p.layout.names) p.SameResult :=
      payload_overlooksAt hp
    have henvelope := Envelope.overlooksAt_onData (fun _ => OptionalPart.leaveOutAll_eq_null_iff)
      (OptionalPart.skim_leaveOutAll _ _) hdata fun _ => rfl
    have hdecode : Attempt.Alike (Envelope.Alike p.SameResult) (p.decode r.body)
        (p.decode r'.body) := by
      apply (Codec.decode_alike henvelope h.complete_text h.document).mono
      rintro e e' ⟨common, he, he'⟩
      exact Payload.alike_of_common he he'
    obtain ⟨x, hx, hresult⟩ := exists_gives_of_receives hp hr hs
    obtain ⟨y, hy, hresult'⟩ := exists_gives_of_receives hp hr' hs'
    rw [hresult, hresult', (hx.of_alike h.complete h.blank hdecode).unique hy]

/-! ## Data that are delivered -/

/-- The data that an answer delivers were read from its members, and decide the result. -/
theorem Delivers.exists_data {p : Payload call.Result} (hp : call.payload? mount = some p)
    (h : call.Delivers mount r members) :
    ∃ d doc, p.layout.read 126 doc = .ok d ∧ doc.membersAs p.layout.names = members ∧
      p.Gives r (p.interpret d) := by
  obtain ⟨p', d, hp', hd⟩ := h.legible
  obtain rfl := Option.some.inj (hp.symm.trans hp')
  obtain ⟨e, hdecode, hdata⟩ := dataOf?_eq_some_iff.1 hd
  obtain ⟨doc, hnamed, hread⟩ :=
    Envelope.exists_data_of_read (Codec.read_of_decode_eq_ok hdecode) hdata
  obtain ⟨doc', hnamed', hmembers⟩ := h.members
  obtain rfl := List.singleton_inj.1 (hnamed.symm.trans hnamed')
  rw [dataNames, hp] at hmembers
  exact ⟨d, doc, hread, hmembers, .data h.complete h.not_blank hdecode hdata⟩

/-- A success that comes to a value delivers data. -/
theorem exists_delivers {p : Payload call.Result} {v : call.Result}
    (hp : call.payload? mount = some p) (hs : r.isSuccess = true) (h : p.Gives r (.ok v)) :
    ∃ members, call.Delivers mount r members := by
  generalize hx : Except.ok v = x at h
  cases h with
  | @data e d hc hb hd hdata =>
    obtain ⟨doc, hnamed, -⟩ := Envelope.exists_data_of_read (Codec.read_of_decode_eq_ok hd) hdata
    exact ⟨_, hs, hc, hb, ⟨p, d, hp, dataOf?_eq_some_iff.2 ⟨e, hd, hdata⟩⟩, doc, hnamed, rfl⟩
  | _ => cases hx

/-- Whether what a call makes of data is right for their members. -/
def IsFaithful (mount : String) (call : Call) (members : Members) (x : Except Error call.Result) :
    Prop :=
  (∀ e, x = .error e ↔ call.Declines mount members e) ∧
    ∀ v, x = .ok v → call.IsAsSent members v

/-! ## Data of each kind -/

theorem isExact_present? {d : StoredCertificate}
    (h : AnswerRecord.storedCertificate.Reads members d) :
    certificate.IsExact members d.present? := by
  have hread : MayHold members certificate.name certificate.Stands d.certificate := h
  exact OptionalPart.isExact_of_mayHold hread

theorem isExact_presentKey? {o : Option String} (h : MayHold members "private_key" IsText o) :
    privateKey.IsExact members (presentKey? o) := by
  have hread : MayHold members privateKey.name privateKey.Stands o := h
  exact OptionalPart.isExact_of_mayHold hread

theorem isExact_presentChain? {o : Option (List String)}
    (h : MayHold members "ca_chain" (IsListOf IsText) o) :
    chain.IsExact members (presentChain? (o.getD [])) := by
  have hread : MayHold members chain.name chain.Stands o := h
  rw [presentChain?_getD]
  exact OptionalPart.isExact_of_mayHold hread

theorem fixed_eq_error_iff_lacks {d : StoredCertificate} (serial : String)
    (h : AnswerRecord.storedCertificate.Reads members d) (e : Error) :
    fixed mount serial d = .error e ↔ Lacks mount serial members e :=
  fixed_eq_error_iff.trans (and_congr_left' ((isExact_present? h).eq_iff none))

theorem isExact_fixed {d : StoredCertificate} {serial s : String}
    (h : AnswerRecord.storedCertificate.Reads members d) (hs : fixed mount serial d = .ok s) :
    certificate.IsExact members (some s) := by
  have hexact := isExact_present? h
  rw [fixed_eq_ok_iff_present?.1 hs] at hexact
  exact hexact

theorem keyType_eq_error_iff {α : Type} {o : Option String} {f : Option KeyType → α}
    (h : MayHold members "private_key_type" IsText o) (e : Error) :
    (do let k ← Vocabulary.ofOptionalName o; return f k : Except Error α) = .error e ↔
      ∃ name, keyType.IsSent members (some name) ∧ ¬Vocabulary.IsKnown KeyType name ∧
        e = .unknownName "key type" name := by
  have hread : MayHold members keyType.name keyType.Stands o := h
  have hsent (name : String) : keyType.IsSent members (some name) ↔ o = some name := by
    rw [OptionalPart.isSent_iff hread]
    cases o <;> simp [Option.filter, keyType]
  have hfails := Vocabulary.ofOptionalName_failsAtFirst KeyType.isRecognised o
  refine (hfails.bind_return e).trans (exists_congr fun name => ?_)
  rw [hsent]
  cases o with
  | none => simp [Attempt.not_isFirstWithout_nil]
  | some name' =>
    simp only [Option.toList_some, Attempt.isFirstWithout_cons_iff, Attempt.not_isFirstWithout_nil,
      and_false, or_false, Option.some.injEq]
    constructor
    · rintro ⟨⟨hunknown, rfl⟩, he⟩
      exact ⟨rfl, hunknown, he⟩
    · rintro ⟨rfl, hunknown, he⟩
      exact ⟨⟨hunknown, rfl⟩, he⟩

theorem isFaithful_readCertificate {d : StoredCertificate} (serial : String)
    (h : AnswerRecord.storedCertificate.Reads members d) :
    (readCertificate serial).IsFaithful mount members (.ok d.present?) := by
  refine ⟨fun e => iff_of_false nofun id, fun v hv => ⟨?_, nofun⟩⟩
  obtain rfl := Except.ok.inj hv
  exact List.forall_mem_singleton.2 (isExact_present? h)

theorem isFaithful_issue {d : Issuance.Data} (role : String) (o : LeafOptions)
    (h : AnswerRecord.issuance.Reads members d) :
    (issue role o).IsFaithful mount members d.toCertificate := by
  obtain ⟨hcertificate, -, hchain, -, hkeyType, hkey⟩ := h
  refine ⟨keyType_eq_error_iff hkeyType, fun v hv => ?_⟩
  obtain ⟨keyType, -, hv⟩ := Attempt.bind_eq_ok_iff.1 hv
  obtain rfl := Except.ok.inj hv
  refine ⟨List.forall_mem_cons.2 ⟨isExact_presentKey? hkey, ?_⟩, ?_⟩
  · exact List.forall_mem_singleton.2 (isExact_presentChain? hchain)
  · rintro s ⟨⟩
    exact hcertificate

theorem isFaithful_generateRoot {d : RootGeneration.Data} (o : RootOptions)
    (h : AnswerRecord.root.Reads members d) :
    (generateRoot o).IsFaithful mount members d.toCertificate := by
  obtain ⟨hcertificate, -, -, hkeyType, hkey⟩ := h
  refine ⟨keyType_eq_error_iff hkeyType, fun v hv => ?_⟩
  obtain ⟨keyType, -, hv⟩ := Attempt.bind_eq_ok_iff.1 hv
  obtain rfl := Except.ok.inj hv
  refine ⟨List.forall_mem_singleton.2 (isExact_presentKey? hkey), ?_⟩
  rintro s ⟨⟩
  exact hcertificate

theorem isFaithful_generateRequest {d : RequestGeneration.Data} (o : RequestOptions)
    (h : AnswerRecord.request.Reads members d) :
    (generateRequest o).IsFaithful mount members d.toRequest := by
  obtain ⟨-, hkeyType, hkey⟩ := h
  refine ⟨keyType_eq_error_iff hkeyType, fun v hv => ?_⟩
  obtain ⟨keyType, -, hv⟩ := Attempt.bind_eq_ok_iff.1 hv
  obtain rfl := Except.ok.inj hv
  exact ⟨List.forall_mem_singleton.2 (isExact_presentKey? hkey), nofun⟩

/-- What a call with optional parts makes of the data that are delivered is right. -/
theorem result_of_delivers (hparts : call.optionalParts ≠ [])
    (hr : call.Receives c net mount answer r) (h : call.Delivers mount r members) :
    call.IsFaithful mount members (call.perform c net mount answer).result := by
  have hdata {p : Payload call.Result} (hp : call.payload? mount = some p) :
      ∃ d doc, p.layout.read 126 doc = .ok d ∧ doc.membersAs p.layout.names = members ∧
        (call.perform c net mount answer).result = call.settled (p.interpret d) := by
    obtain ⟨d, doc, hread, hmembers, hgives⟩ := h.exists_data hp
    obtain ⟨x, hx, hresult⟩ := exists_gives_of_receives hp hr h.success
    exact ⟨d, doc, hread, hmembers, hx.unique hgives ▸ hresult⟩
  cases call with
  | readAuthority | readAuthorityChain | readRevocationList =>
    obtain ⟨d, doc, hread, rfl, hresult⟩ := hdata rfl
    have hreads : AnswerRecord.storedCertificate.Reads _ d := AnswerRecord.reads_of_read hread
    rw [hresult]
    exact ⟨fixed_eq_error_iff_lacks _ hreads, fun s hs =>
      ⟨List.forall_mem_singleton.2 (isExact_fixed hreads hs), nofun⟩⟩
  | readCertificate serial =>
    obtain ⟨d, doc, hread, rfl, hresult⟩ := hdata rfl
    rw [hresult]
    exact isFaithful_readCertificate serial (AnswerRecord.reads_of_read hread)
  | issue role o =>
    obtain ⟨d, doc, hread, rfl, hresult⟩ := hdata rfl
    rw [hresult]
    exact isFaithful_issue role o (AnswerRecord.reads_of_read hread)
  | sign _ _ _ | signIntermediate _ _ =>
    obtain ⟨d, doc, hread, rfl, hresult⟩ := hdata rfl
    obtain ⟨hcertificate, -, hchain, -⟩ : AnswerRecord.signing.Reads _ d :=
      AnswerRecord.reads_of_read hread
    rw [hresult]
    refine ⟨fun e => iff_of_false nofun id, fun v hv => ?_⟩
    obtain rfl := Except.ok.inj hv
    refine ⟨List.forall_mem_singleton.2 (isExact_presentChain? hchain), ?_⟩
    rintro s ⟨⟩
    exact hcertificate
  | generateRoot o =>
    obtain ⟨d, doc, hread, rfl, hresult⟩ := hdata rfl
    rw [hresult]
    exact isFaithful_generateRoot o (AnswerRecord.reads_of_read hread)
  | generateRequest o =>
    obtain ⟨d, doc, hread, rfl, hresult⟩ := hdata rfl
    rw [hresult]
    exact isFaithful_generateRequest o (AnswerRecord.reads_of_read hread)
  | _ => exact absurd rfl hparts

/-- A call with optional parts has a result only where data are delivered. -/
theorem exists_delivers_of_result {v : call.Result} (hparts : call.optionalParts ≠ [])
    (h : (call.perform c net mount answer).result = .ok v) :
    ∃ r members, call.Receives c net mount answer r ∧ call.Delivers mount r members := by
  have hresult {p : Payload call.Result} (hp : call.payload? mount = some p)
      (hsettled : ∀ x, call.settled x = x) (hrefusal : ∀ r, ∃ e, call.refusal r = .error e) :
      ∃ r members, call.Receives c net mount answer r ∧ call.Delivers mount r members := by
    obtain ⟨r, hr, hs, hgives⟩ := exists_gives_of_result hp hsettled hrefusal h
    obtain ⟨members, hdelivers⟩ := exists_delivers hp hs hgives
    exact ⟨r, members, hr, hdelivers⟩
  cases call with
  | readAuthority | readAuthorityChain | readRevocationList | readCertificate _ | issue _ _
  | sign _ _ _ | signIntermediate _ _ | generateRoot _ | generateRequest _ =>
    exact hresult rfl (fun _ => rfl) fun _ => ⟨_, rfl⟩
  | _ => exact absurd rfl hparts

/-- Successes that are the same but for how they say that optional parts are absent lead to the same
result. What such a part is in a result is exactly what was sent: nothing where it is absent, and
the very value where it is there. -/
theorem result_of_optional_parts (call : Call) (mount : String) :
    (∀ c c' net net' answer answer' r r', call.Receives c net mount answer r →
      call.Receives c' net' mount answer' r' → r.isSuccess = true → r'.isSuccess = true →
      r.SameBut call.optionalParts (call.dataNames mount) r' →
        (call.perform c net mount answer).result = (call.perform c' net' mount answer').result) ∧
    (call.optionalParts ≠ [] → ∀ c net answer,
      (∀ r members, call.Receives c net mount answer r → call.Delivers mount r members →
        call.IsFaithful mount members (call.perform c net mount answer).result) ∧
      ∀ v, (call.perform c net mount answer).result = .ok v →
        ∃ r members, call.Receives c net mount answer r ∧ call.Delivers mount r members ∧
          call.IsAsSent members v) := by
  refine ⟨fun c c' net net' answer answer' r r' => result_of_sameBut, fun hparts c net answer => ?_⟩
  refine ⟨fun r members => result_of_delivers hparts, fun v hv => ?_⟩
  obtain ⟨r, members, hr, hdelivers⟩ := exists_delivers_of_result hparts hv
  exact ⟨r, members, hr, hdelivers, (result_of_delivers hparts hr hdelivers).2 v hv⟩

/-- An answer with data in which nothing is. -/
def emptyData : Http.Response :=
  ⟨200, Text.Utf8.encode "\x7b\"data\":\x7b\x7d\x7d", true⟩

/-- An answer with an empty chain and an empty private key. -/
def emptyMaterial : Http.Response :=
  ⟨200, Text.Utf8.encode "\x7b\"data\":\x7b\"ca_chain\":[],\"private_key\":\"\"\x7d\x7d", true⟩

/-- An answer with a blank certificate. -/
def blankCertificate : Http.Response :=
  ⟨200, Text.Utf8.encode "\x7b\"data\":\x7b\"certificate\":\" \\t\"\x7d\x7d", true⟩

/-- An empty private key is none, and neither is a blank certificate one. -/
theorem result_of_empty_and_blank :
    ((issue "web" {}).perform Client.standard (fun _ => .answered emptyMaterial) "pki"
        (.ok "s.token")).result = .ok ⟨"", "", "", [], none, none⟩ ∧
      (readAuthority.perform Client.standard (fun _ => .answered blankCertificate) "pki"
        (.ok "s.token")).result = .error (.noData "No ca stored in pki") := by
  have hreceives (call : Call) (r : Http.Response) :
      call.Receives Client.standard (fun _ => .answered r) "pki" (.ok "s.token") r :=
    receives_of_canAsk (Client.standard_canAsk (by decide)) fun _ => rfl
  constructor
  · have hread : (((issue "web" {}).operation "pki").exit.read emptyData).result =
        .ok ⟨"", "", "", [], none, none⟩ := by cbv
    have hsame : emptyMaterial.SameBut (issue "web" {}).optionalParts
        ((issue "web" {}).dataNames "pki") emptyData := ⟨rfl, by cbv, by cbv, by cbv⟩
    rw [(result_of_optional_parts (issue "web" {}) "pki").1 _ _ _ _ _ _ _ _ (hreceives _ _)
      (hreceives _ _) rfl rfl hsame]
    exact (perform_result_of_receives (hreceives _ _)).trans hread
  · have hdelivers : readAuthority.Delivers "pki" blankCertificate
        [(.ok "certificate", .text (.ok " \t"))] := by
      have hdata : dataOf? StoredCertificate.layout blankCertificate.body = some ⟨some " \t"⟩ := by
        cbv
      refine ⟨rfl, rfl, by cbv, ⟨_, _, rfl, hdata⟩, ?_⟩
      exact ⟨.object [(.ok "certificate", .text (.ok " \t"))] none, by cbv, rfl⟩
    have hparts : readAuthority.optionalParts ≠ [] := List.cons_ne_nil _ _
    have hfaithful := ((result_of_optional_parts readAuthority "pki").2 hparts _ _ _).1 _ _
      (hreceives _ _) hdelivers
    refine (hfaithful.1 _).2 ⟨.inr ⟨.text (.ok " \t"), rfl, .inr ⟨" \t", rfl, by decide⟩⟩, ?_⟩
    decide

end Call

end VaultPki

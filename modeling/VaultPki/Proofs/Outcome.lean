import VaultPki.Engine.Call
import VaultPki.Proofs.Envelope
import VaultPki.Proofs.Operation

/-!
# The outcome of a call

What every call gives for every answer of the server. A status that is no success is an error with
that status, whatever the body holds; a call that only causes an effect is content with any success;
any other reads its data out of a complete body.
-/

namespace VaultPki

/-- What a call takes out of the data of an answer. -/
structure Payload (α : Type) where
  Data : Type
  layout : Record.Layout Data
  interpret : Data → Except Error α

namespace Payload

variable {α : Type}

/-- The envelope in the body of an answer. -/
def decode (p : Payload α) (body : List UInt8) : Except Json.Problem (Envelope p.Data) :=
  (Envelope.layout p.layout.codec).decode body

/-- What the body of a successful answer comes to. -/
inductive Gives (p : Payload α) (r : Http.Response) : Except Error α → Prop
  | cutShort (hc : r.complete = false) : Gives p r (.error .http)
  | blank (hc : r.complete = true) (hb : r.body.all Text.Ascii.isBlankByte = true) :
    Gives p r (.error (.noData "Unknown remote error"))
  | malformed {problem : Json.Problem} (hc : r.complete = true)
      (hb : r.body.all Text.Ascii.isBlankByte = false) (hd : p.decode r.body = .error problem) :
    Gives p r (.error (.json problem))
  | noData {e : Envelope p.Data} (hc : r.complete = true)
      (hb : r.body.all Text.Ascii.isBlankByte = false) (hd : p.decode r.body = .ok e)
      (hn : (Json.Text.ofBytes r.body).document.LacksData) :
    Gives p r (.error (.noData ((e.warnings.bind List.head?).getD "Unknown remote error")))
  | data {e : Envelope p.Data} {d : p.Data} (hc : r.complete = true)
      (hb : r.body.all Text.Ascii.isBlankByte = false) (hd : p.decode r.body = .ok e)
      (hs : e.data = some d) : Gives p r (p.interpret d)

/-- An answer comes to one thing only. -/
theorem Gives.unique {p : Payload α} {r : Http.Response} {x y : Except Error α}
    (hx : p.Gives r x) (hy : p.Gives r y) : x = y := by
  cases hx with
  | cutShort hc =>
    cases hy with
    | cutShort => rfl
    | _ => simp_all
  | blank hc hb =>
    cases hy with
    | blank => rfl
    | _ => simp_all
  | malformed hc hb hd =>
    cases hy with
    | malformed _ _ hd' =>
      cases hd.symm.trans hd'
      rfl
    | _ => simp_all
  | noData hc hb hd hn =>
    cases hy with
    | noData _ _ hd' _ =>
      cases hd.symm.trans hd'
      rfl
    | data _ _ hd' hs =>
      rw [← Envelope.data_eq_none_iff hd', hs] at hn
      cases hn
    | _ => simp_all
  | data hc hb hd hs =>
    cases hy with
    | data _ _ hd' hs' =>
      cases hd.symm.trans hd'
      cases hs.symm.trans hs'
      rfl
    | noData _ _ hd' hn =>
      rw [← Envelope.data_eq_none_iff hd, hs] at hn
      cases hn
    | _ => simp_all

theorem reason_eq (e : Envelope α) :
    e.reason = (e.warnings.bind List.head?).getD "Unknown remote error" := by
  unfold Envelope.reason
  rcases e.warnings with _ | _ | ⟨w, ws⟩ <;> rfl

theorem envelope_of_not_blank (p : Payload α) {body : List UInt8}
    (hb : body.all Text.Ascii.isBlankByte = false) :
    Answer.envelope p.layout.codec body = (p.decode body).mapError .json := by
  rw [Answer.envelope, Answer.isBlank, hb, if_neg Bool.false_ne_true]
  rfl

theorem envelope_of_blank (p : Payload α) {body : List UInt8}
    (hb : body.all Text.Ascii.isBlankByte = true) :
    Answer.envelope p.layout.codec body = .ok .empty :=
  if_pos hb

theorem envelope_of_decode {p : Payload α} {body : List UInt8} {e : Envelope p.Data}
    (hb : body.all Text.Ascii.isBlankByte = false) (hd : p.decode body = .ok e) :
    Answer.envelope p.layout.codec body = .ok e := by
  rw [p.envelope_of_not_blank hb, hd]
  rfl

theorem readData_cut_short (p : Payload α) {r : Http.Response} (h : r.isSuccess = true)
    (hc : r.complete = false) :
    Exit.readData (Exit.interpreted p.layout.codec p.interpret) r = ⟨.error .http, [], []⟩ := by
  rw [Exit.readData, Answer.readEnvelope_cut_short h hc]
  rfl

theorem readData_of_decode_error {p : Payload α} {r : Http.Response} {problem : Json.Problem}
    (h : r.isSuccess = true) (hc : r.complete = true)
    (hb : r.body.all Text.Ascii.isBlankByte = false) (hd : p.decode r.body = .error problem) :
    Exit.readData (Exit.interpreted p.layout.codec p.interpret) r =
      ⟨.error (.json problem), [], []⟩ := by
  rw [Exit.readData, Answer.readEnvelope_complete h hc, Exit.interpreted,
    p.envelope_of_not_blank hb, hd]
  rfl

theorem readData_of_envelope {p : Payload α} {r : Http.Response} {e : Envelope p.Data}
    (h : r.isSuccess = true) (hc : r.complete = true)
    (he : Answer.envelope p.layout.codec r.body = .ok e) :
    Exit.readData (Exit.interpreted p.layout.codec p.interpret) r =
      match e.data with
      | some d => ⟨p.interpret d, [], []⟩
      | none => ⟨.error (.noData e.reason), [], [.noData e.reason]⟩ := by
  rw [Exit.readData, Answer.readEnvelope_complete h hc, Exit.interpreted, he]
  show (Answer.required (e.map p.interpret) >>= Report.ofResult).behind [] [] = _
  cases hdata : e.data with
  | none =>
    rw [Answer.required, Envelope.map, hdata]
    rfl
  | some d =>
    rw [Answer.required, Envelope.map, hdata]
    rfl

theorem gives_readData (p : Payload α) {r : Http.Response} (h : r.isSuccess = true) :
    p.Gives r (Exit.readData (Exit.interpreted p.layout.codec p.interpret) r).result := by
  cases hc : r.complete with
  | false =>
    rw [p.readData_cut_short h hc]
    exact .cutShort hc
  | true =>
    cases hb : r.body.all Text.Ascii.isBlankByte with
    | true =>
      rw [readData_of_envelope h hc (p.envelope_of_blank hb)]
      exact .blank hc hb
    | false =>
      cases hd : p.decode r.body with
      | error problem =>
        rw [readData_of_decode_error h hc hb hd]
        exact .malformed hc hb hd
      | ok e =>
        rw [readData_of_envelope h hc (envelope_of_decode hb hd)]
        cases hs : e.data with
        | none =>
          rw [reason_eq]
          exact .noData hc hb hd ((Envelope.data_eq_none_iff hd).1 hs)
        | some d => exact .data hc hb hd hs

end Payload

namespace Exit

variable {α β : Type} {r : Http.Response}

theorem read_confirmation_of_success {expected : Nat} {value : α} (h : r.isSuccess = true) :
    ((Exit.confirmation expected value).read r).result = .ok value := by
  rcases hr : Answer.confirm expected r with ⟨result, requests, events⟩
  have hresult := Answer.confirm_result expected h
  rw [hr] at hresult
  cases hresult
  rw [Exit.read, hr]
  rfl

theorem read_confirmation_of_refusal {expected : Nat} {value : α} (h : r.isSuccess = false) :
    ((Exit.confirmation expected value).read r).result =
      .error (.vault r.status (Answer.errors r)) := by
  rw [Exit.read, Answer.confirm_refused h]
  rfl

theorem readData_of_refusal {decode : List UInt8 → Except Error (Envelope (Except Error α))}
    (h : r.isSuccess = false) :
    (readData decode r).result = .error (.vault r.status (Answer.errors r)) := by
  rw [readData, Answer.readEnvelope_refused h]
  rfl

/-- Nothing under the path is no success. -/
theorem read_payload_of_success
    {decode : List UInt8 → Except Error (Envelope (Except Error α))} {absent : Option (α × Event)}
    (h : r.isSuccess = true) : (Exit.payload decode absent).read r = readData decode r := by
  cases absent with
  | none => rfl
  | some a =>
    obtain ⟨value, event⟩ := a
    -- What is made of a missing path is no matter here, as that status is no success.
    have hstatus : r.status ≠ 404 := by
      simp only [Http.Response.isSuccess, Bool.and_eq_true, decide_eq_true_eq] at h
      omega
    rw [Exit.read, if_neg hstatus]

end Exit

namespace Call

/-- What a call takes out of the data of an answer; those that only cause an effect take nothing. -/
def payload? (mount : String) : (c : Call) → Option (Payload c.Result)
  | readAuthority => some ⟨_, StoredCertificate.layout, fixed mount "ca"⟩
  | readAuthorityChain => some ⟨_, StoredCertificate.layout, fixed mount "ca_chain"⟩
  | readRevocationList => some ⟨_, StoredCertificate.layout, fixed mount "crl"⟩
  | readCertificate _ => some ⟨_, StoredCertificate.layout, fun d => .ok d.present?⟩
  | listCertificates => some ⟨_, Listing.layout, fun d => .ok d.serials⟩
  | issue _ _ => some ⟨_, Issuance.Data.layout, Issuance.Data.toCertificate⟩
  | sign _ _ _ => some ⟨_, Signing.Data.layout, fun d => .ok d.toCertificate⟩
  | revoke _ => some ⟨_, Revocation.Data.layout, Revocation.Data.toInstant⟩
  | rotateRevocationList => some ⟨_, Rotation.layout, fun d => .ok d.success⟩
  | readUrls => some ⟨_, PublishedUrls.layout, .ok⟩
  | readRevocationListSettings => some ⟨_, RevocationListSettings.layout, .ok⟩
  | readRole _ => some ⟨_, StoredRole.layout, StoredRole.toRole⟩
  | listRoles => some ⟨_, Listing.layout, fun d => .ok d.keys⟩
  | generateRoot _ => some ⟨_, RootGeneration.Data.layout, RootGeneration.Data.toCertificate⟩
  | signIntermediate _ _ => some ⟨_, Signing.Data.layout, fun d => .ok d.toCertificate⟩
  | generateRequest _ =>
    some ⟨_, RequestGeneration.Data.layout, RequestGeneration.Data.toRequest⟩
  | isEnabled => some ⟨_, PublishedUrls.layout, fun _ => .ok true⟩
  | installBundle _ | writeUrls _ | writeRevocationListSettings _ | tidy _ | writeRole _ _
  | deleteRole _ | deleteRoot | installIntermediate _ | enable _ _ | disable => none

/-- The result of a call when the server refuses. Only two calls do not fail. -/
def refusal (r : Http.Response) : (c : Call) → Except Error c.Result
  | listRoles =>
    if r.status = 404 then .ok [] else .error (.vault r.status (Answer.errors r))
  | isEnabled => .ok false
  | _ => .error (.vault r.status (Answer.errors r))

/-- The result of a call whose work came to an end. An engine that cannot be asked is not there. -/
def settled : (c : Call) → Except Error c.Result → Except Error c.Result
  | isEnabled, .error _ => .ok false
  | _, x => x

theorem settle_result (mount : String) (call : Call) (r : Report call.Result) :
    (call.settle mount r).result = call.settled r.result := by
  cases call with
  | isEnabled =>
    obtain ⟨result, requests, events⟩ := r
    cases result <;> rfl
  | _ => rfl

theorem settle_requests (mount : String) (call : Call) (r : Report call.Result) :
    (call.settle mount r).requests = r.requests := by
  cases call with
  | isEnabled =>
    obtain ⟨result, requests, events⟩ := r
    cases result <;> rfl
  | _ => rfl

theorem perform_ok (call : Call) (c : Client) (net : Http.Network) (mount token : String) :
    call.perform c net mount (.ok token) =
      call.settle mount ((call.operation mount).perform c net token) := rfl

theorem perform_error (call : Call) (c : Client) (net : Http.Network) (mount : String)
    (e : Error) : call.perform c net mount (.error e) = call.settle mount ⟨.error e, [], []⟩ := rfl

theorem fixed_eq_ok_iff_present? {mount serial s : String} {stored : StoredCertificate} :
    fixed mount serial stored = .ok s ↔ stored.present? = some s := by
  rw [fixed]
  cases stored.present? <;> simp

theorem fixed_eq_error_iff {mount serial : String} {stored : StoredCertificate} {e : Error} :
    fixed mount serial stored = .error e ↔
      stored.present? = none ∧ e = .noData ("No " ++ serial ++ " stored in " ++ mount) := by
  rw [fixed]
  cases stored.present? <;> simp [@eq_comm Error]

theorem exit_of_payload {mount : String} {call : Call} {p : Payload call.Result}
    (h : call.payload? mount = some p) : ∃ absent,
      (call.operation mount).exit =
        .payload (Exit.interpreted p.layout.codec p.interpret) absent := by
  cases call with
  | listRoles =>
    cases h
    exact ⟨some ([], .noRoles mount), rfl⟩
  | installBundle _ | writeUrls _ | writeRevocationListSettings _ | tidy _ | writeRole _ _
  | deleteRole _ | deleteRoot | installIntermediate _ | enable _ _ | disable => cases h
  | _ =>
    cases h
    exact ⟨none, rfl⟩

theorem exit_of_no_payload {mount : String} {call : Call} (h : call.payload? mount = none) :
    ∃ expected value, (call.operation mount).exit = .confirmation expected value := by
  cases call with
  | installBundle _ | writeUrls _ | writeRevocationListSettings _ | tidy _ | writeRole _ _
  | deleteRole _ | deleteRoot | installIntermediate _ | enable _ _ | disable => exact ⟨_, (), rfl⟩
  | _ => cases h

theorem read_of_refusal (mount : String) (call : Call) {r : Http.Response}
    (h : r.isSuccess = false) :
    call.settled ((call.operation mount).exit.read r).result = call.refusal r := by
  cases call with
  | listRoles =>
    show (Exit.read r (listingRoles mount).exit).result = _
    rw [listingRoles, Exit.dataOr, Exit.read, refusal]
    split
    · rfl
    · exact Exit.readData_of_refusal h
  | isEnabled =>
    have hread : ((operation mount isEnabled).exit.read r).result = .error _ :=
      Exit.readData_of_refusal h
    rw [hread]
    rfl
  | installBundle _ | writeUrls _ | writeRevocationListSettings _ | tidy _ | writeRole _ _
  | deleteRole _ | deleteRoot | installIntermediate _ | enable _ _ | disable =>
    exact Exit.read_confirmation_of_refusal h
  | _ => exact Exit.readData_of_refusal h

theorem perform_result_of_answered {call : Call} {c : Client} {net : Http.Network}
    {mount token : String} {q : Http.Request} {r : Http.Response}
    (hq : (call.operation mount).request c token = .ok q) (hnet : net q = .answered r) :
    (call.perform c net mount (.ok token)).result =
      call.settled ((call.operation mount).exit.read r).result := by
  rw [perform_ok, settle_result, Operation.perform_of_answered hq hnet, Report.behind_result,
    Operation.conclude_result]

/-- What a call gives for any answer of the server: an error with the status if that is no
success, where only listing roles and looking for the engine give something else; for a success
either nothing but the success itself, or what the body comes to. -/
theorem result_of_answer (call : Call) (c : Client) (net : Http.Network) (mount token : String)
    (r : Http.Response) (hask : c.CanAsk token) (hnet : ∀ q, net q = .answered r) :
    (r.isSuccess = false →
      (call.perform c net mount (.ok token)).result = call.refusal r) ∧
    (r.isSuccess = true → call.payload? mount = none →
      ∃ value, (call.perform c net mount (.ok token)).result = .ok value) ∧
    (r.isSuccess = true → ∀ p, call.payload? mount = some p →
      ∃ x, p.Gives r x ∧ (call.perform c net mount (.ok token)).result = call.settled x) := by
  obtain ⟨q, hq⟩ := (call.operation mount).exists_request hask
  rw [perform_result_of_answered hq (hnet q)]
  refine ⟨fun h => read_of_refusal mount call h, fun h hp => ?_, fun h p hp => ?_⟩
  · obtain ⟨expected, value, hexit⟩ := exit_of_no_payload hp
    rw [hexit, Exit.read_confirmation_of_success h]
    cases call <;> exact ⟨value, rfl⟩
  · obtain ⟨absent, hexit⟩ := exit_of_payload hp
    rw [hexit, Exit.read_payload_of_success h]
    exact ⟨_, p.gives_readData h, rfl⟩

/-- An answer with warnings instead of data. -/
def sealedAnswer : Http.Response :=
  ⟨200, Text.Utf8.encode "\x7b\"data\":null,\"warnings\":[\"sealed\",\"x\"]\x7d", true⟩

/-- The first warning is the reason. -/
theorem readRole_of_sealedAnswer :
    Client.standard.CanAsk "s.token" ∧
      ((readRole "web").perform Client.standard (fun _ => .answered sealedAnswer) "pki"
        (.ok "s.token")).result = .error (.noData "sealed") := by
  have hask : Client.standard.CanAsk "s.token" := Client.standard_canAsk (by decide)
  obtain ⟨x, hx, hresult⟩ := (result_of_answer (readRole "web") Client.standard _ "pki"
    "s.token" sealedAnswer hask fun _ => rfl).2.2 rfl _ rfl
  have hd : (Envelope.layout StoredRole.layout.codec).decode sealedAnswer.body =
      .ok ⟨none, some ["sealed", "x"], none⟩ := by cbv
  have hb : sealedAnswer.body.all Text.Ascii.isBlankByte = false := by cbv
  have hn : (Json.Text.ofBytes sealedAnswer.body).document.LacksData := by
    rw [← Envelope.data_eq_none_iff hd]
  rw [hx.unique (.noData rfl hb hd hn)] at hresult
  exact ⟨hask, hresult⟩

end Call

end VaultPki

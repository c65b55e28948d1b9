import VaultPki.Proofs.Answers
import VaultPki.Proofs.Arrival
import VaultPki.Proofs.Record.Secrets

/-!
# Answers that differ in secrets

Two answers that differ in nothing but the secrets in the data of a success lead to the same
reports. What a call takes out of them agrees in everything that is no secret, and of all that only
the serial number of a new root is ever reported.
-/

namespace VaultPki

open Record
open Json (Document)

/-- Whether two answers are the same but for the secrets in the data of a success. The data of a
call may be the list of its values, which are named in order. -/
structure Http.Response.Alike (names : List String) (r r' : Http.Response) : Prop where
  status : r.status = r'.status
  complete : r.complete = r'.complete
  refusal : r.isSuccess = false → r.body = r'.body
  blank : r.body.all Text.Ascii.isBlankByte = r'.body.all Text.Ascii.isBlankByte
  complete_text : (Json.Text.ofBytes r.body).complete = (Json.Text.ofBytes r'.body).complete
  document : (Json.Text.ofBytes r.body).document.maskedEnvelope names =
    (Json.Text.ofBytes r'.body).document.maskedEnvelope names

namespace Http.Response.Alike

variable {names : List String} {r r' : Http.Response}

theorem isSuccess_eq (h : r.Alike names r') : r.isSuccess = r'.isSuccess := by
  rw [isSuccess, isSuccess, h.status]

theorem eq_of_refusal (h : r.Alike names r') (hs : r.isSuccess = false) : r = r' := by
  obtain ⟨status, body, complete⟩ := r
  obtain ⟨status', body', complete'⟩ := r'
  obtain rfl : status = status' := h.status
  obtain rfl : body = body' := h.refusal hs
  obtain rfl : complete = complete' := h.complete
  rfl

end Http.Response.Alike

/-! ## Data -/

theorem AnswerRecord.isDiscreet (k : AnswerRecord) : ∀ f ∈ k.layout.own, f.IsDiscreet := by
  cases k with
  | storedCertificate => simp [layout, StoredCertificate.layout, Layout.plain]
  | listing => simp [layout, Listing.layout, Layout.plain]
  | issuance => simp [layout, Issuance.Data.layout, Layout.plain]
  | signing => simp [layout, Signing.Data.layout, Layout.plain]
  | revocation => simp [layout, Revocation.Data.layout, Layout.plain, Codec.int64]
  | publishedUrls => simp [layout, PublishedUrls.layout, Layout.plain]
  | revocationListSettings => simp [layout, RevocationListSettings.layout, Layout.plain]
  | rotation => simp [layout, Rotation.layout, Layout.plain]
  | storedRole => simp [layout, StoredRole.layout, StoredRole.fields, Layout.plain, Codec.uint32]
  | root => simp [layout, RootGeneration.Data.layout, Layout.plain]
  | request => simp [layout, RequestGeneration.Data.layout, Layout.plain]

namespace Payload

variable {α : Type} {p : Payload α} {r r' : Http.Response}

/-- Whether data are the same but for secrets. -/
def AgreeOpenly (p : Payload α) (d d' : p.Data) : Prop :=
  Row.Related p.layout.own (Row.openly p.layout.own) (p.layout.row d).1 (p.layout.row d').1

/-- Whether data are read the same from masked documents, but for secrets. -/
structure IsDiscreet (p : Payload α) : Prop where
  isFlat : p.layout.IsFlat
  isDiscreet : ∀ f ∈ p.layout.own, f.IsDiscreet

/-- Whether results are the same, or come from data that are the same but for secrets. -/
inductive Similar (p : Payload α) : Except Error α → Except Error α → Prop
  | same (x : Except Error α) : Similar p x x
  | data {d d' masked : p.Data} (h : p.AgreeOpenly d masked) (h' : p.AgreeOpenly d' masked) :
    Similar p (p.interpret d) (p.interpret d')

theorem IsDiscreet.decode_alike (hp : p.IsDiscreet) (h : r.Alike p.layout.names r') :
    Attempt.Alike (fun e e' => ∃ masked, Envelope.Alike p.AgreeOpenly e masked ∧
      Envelope.Alike p.AgreeOpenly e' masked) (p.decode r.body) (p.decode r'.body) := by
  have hoverlooks := hp.isFlat.overlooks_maskedRecord hp.isDiscreet 126
  have henvelope := Envelope.overlooksAt_onData (fun _ => mapRecord_eq_null_iff)
    (Document.skim_maskedRecord p.layout.names) hoverlooks fun d => Row.related_openly_refl _
  exact Codec.decode_alike henvelope h.complete_text h.document

/-- What is made of an envelope. -/
def ofEnvelope (p : Payload α) (e : Envelope p.Data) : Report α :=
  match e.data with
  | some d => ⟨p.interpret d, [], []⟩
  | none => ⟨.error (.noData e.reason), [], [.noData e.reason]⟩

theorem similar_of_alike {e e' masked : Envelope p.Data}
    (h : Envelope.Alike p.AgreeOpenly e masked) (h' : Envelope.Alike p.AgreeOpenly e' masked) :
    (p.ofEnvelope e).events = (p.ofEnvelope e').events ∧
      p.Similar (p.ofEnvelope e).result (p.ofEnvelope e').result := by
  obtain ⟨data, warnings, errors⟩ := e
  obtain ⟨data', warnings', errors'⟩ := e'
  obtain ⟨dataMasked, warningsMasked, errorsMasked⟩ := masked
  obtain ⟨hdata, rfl, -⟩ := h
  obtain ⟨hdata', rfl, -⟩ := h'
  cases hdata with
  | none =>
    cases hdata'
    exact ⟨rfl, .same _⟩
  | some hd =>
    cases hdata' with
    | some hd' => exact ⟨rfl, .data hd hd'⟩

/-- What is read from answers that differ in secrets is reported the same. -/
theorem IsDiscreet.readData_similar (hp : p.IsDiscreet) (h : r.Alike p.layout.names r')
    (hs : r.isSuccess = true) :
    (Exit.readData (Exit.interpreted p.layout.codec p.interpret) r).events =
        (Exit.readData (Exit.interpreted p.layout.codec p.interpret) r').events ∧
      p.Similar (Exit.readData (Exit.interpreted p.layout.codec p.interpret) r).result
        (Exit.readData (Exit.interpreted p.layout.codec p.interpret) r').result := by
  have hs' : r'.isSuccess = true := h.isSuccess_eq ▸ hs
  cases hc : r.complete with
  | false =>
    rw [p.readData_cut_short hs hc, p.readData_cut_short hs' (h.complete ▸ hc)]
    exact ⟨rfl, .same _⟩
  | true =>
    have hc' : r'.complete = true := h.complete ▸ hc
    cases hb : r.body.all Text.Ascii.isBlankByte with
    | true =>
      have hb' : r'.body.all Text.Ascii.isBlankByte = true := h.blank ▸ hb
      rw [readData_of_envelope hs hc (p.envelope_of_blank hb),
        readData_of_envelope hs' hc' (p.envelope_of_blank hb')]
      exact ⟨rfl, .same _⟩
    | false =>
      have hb' : r'.body.all Text.Ascii.isBlankByte = false := h.blank ▸ hb
      have hdecode := hp.decode_alike h
      generalize hd : p.decode r.body = x at hdecode
      generalize hd' : p.decode r'.body = x' at hdecode
      cases hdecode with
      | error problem =>
        rw [readData_of_decode_error hs hc hb hd, readData_of_decode_error hs' hc' hb' hd']
        exact ⟨rfl, .same _⟩
      | ok halike =>
        obtain ⟨masked, ha, ha'⟩ := halike
        rw [readData_of_envelope hs hc (envelope_of_decode hb hd),
          readData_of_envelope hs' hc' (envelope_of_decode hb' hd')]
        exact similar_of_alike ha ha'

end Payload

/-! ## Calls -/

namespace Call

variable {call : Call} {mount : String} {r r' : Http.Response}

theorem payload_isDiscreet {p : Payload call.Result} (h : call.payload? mount = some p) :
    p.IsDiscreet := by
  cases call with
  | readAuthority | readAuthorityChain | readRevocationList | readCertificate _ =>
    cases h
    exact ⟨AnswerRecord.storedCertificate.isFlat, AnswerRecord.storedCertificate.isDiscreet⟩
  | listCertificates | listRoles =>
    cases h
    exact ⟨AnswerRecord.listing.isFlat, AnswerRecord.listing.isDiscreet⟩
  | issue _ _ =>
    cases h
    exact ⟨AnswerRecord.issuance.isFlat, AnswerRecord.issuance.isDiscreet⟩
  | sign _ _ _ | signIntermediate _ _ =>
    cases h
    exact ⟨AnswerRecord.signing.isFlat, AnswerRecord.signing.isDiscreet⟩
  | revoke _ =>
    cases h
    exact ⟨AnswerRecord.revocation.isFlat, AnswerRecord.revocation.isDiscreet⟩
  | rotateRevocationList =>
    cases h
    exact ⟨AnswerRecord.rotation.isFlat, AnswerRecord.rotation.isDiscreet⟩
  | readUrls | isEnabled =>
    cases h
    exact ⟨AnswerRecord.publishedUrls.isFlat, AnswerRecord.publishedUrls.isDiscreet⟩
  | readRevocationListSettings =>
    cases h
    exact ⟨AnswerRecord.revocationListSettings.isFlat,
      AnswerRecord.revocationListSettings.isDiscreet⟩
  | readRole _ =>
    cases h
    exact ⟨AnswerRecord.storedRole.isFlat, AnswerRecord.storedRole.isDiscreet⟩
  | generateRoot _ =>
    cases h
    exact ⟨AnswerRecord.root.isFlat, AnswerRecord.root.isDiscreet⟩
  | generateRequest _ =>
    cases h
    exact ⟨AnswerRecord.request.isFlat, AnswerRecord.request.isDiscreet⟩
  | installBundle _ | writeUrls _ | writeRevocationListSettings _ | tidy _ | writeRole _ _
  | deleteRole _ | deleteRoot | installIntermediate _ | enable _ _ | disable => cases h

/-- The names that the values of a call's data have where they are a list. -/
def dataNames (mount : String) (call : Call) : List String :=
  match call.payload? mount with
  | some p => p.layout.names
  | none => []

/-- The serial number and the type of the key of a new root are no secrets. -/
theorem open_of_agreeOpenly {d masked : RootGeneration.Data}
    (h : Payload.AgreeOpenly ⟨_, RootGeneration.Data.layout, RootGeneration.Data.toCertificate⟩ d
      masked) : d.serial = masked.serial ∧ d.keyType = masked.keyType := by
  obtain ⟨-, -, hserial, hkeyType, -⟩ := h
  have hopen : isSecret "serial_number" ≠ true ∧ isSecret "private_key_type" ≠ true := by decide
  exact ⟨hserial.resolve_left hopen.1, hkeyType.resolve_left hopen.2⟩

theorem deedEvents_generateRoot {o : RootOptions} {d d' : RootGeneration.Data}
    (hserial : d.serial = d'.serial) (hkeyType : d.keyType = d'.keyType) :
    ((generateRoot o).operation mount).deedEvents d.toCertificate =
      ((generateRoot o).operation mount).deedEvents d'.toCertificate := by
  rw [RootGeneration.Data.toCertificate, RootGeneration.Data.toCertificate, hserial, hkeyType]
  cases (Vocabulary.ofOptionalName d'.keyType : Except Error (Option KeyType)) <;> rfl

theorem reported_of_similar {p : Payload call.Result} (hp : call.payload? mount = some p)
    {x x' : Except Error call.Result} (h : p.Similar x x') :
    (call.operation mount).deedEvents x = (call.operation mount).deedEvents x' ∧
      call.probed mount x = call.probed mount x' := by
  cases h with
  | same => exact ⟨rfl, rfl⟩
  | @data d d' masked h h' =>
    cases call with
    -- Of all calls only this one reports something that it has read.
    | generateRoot o =>
      cases hp
      obtain ⟨hserial, hkeyType⟩ := open_of_agreeOpenly h
      obtain ⟨hserial', hkeyType'⟩ := open_of_agreeOpenly h'
      exact ⟨deedEvents_generateRoot (hserial.trans hserial'.symm)
        (hkeyType.trans hkeyType'.symm), rfl⟩
    | isEnabled =>
      cases hp
      exact ⟨rfl, rfl⟩
    | installBundle _ | writeUrls _ | writeRevocationListSettings _ | tidy _ | writeRole _ _
    | deleteRole _ | deleteRoot | installIntermediate _ | enable _ _ | disable => cases hp
    | _ =>
      refine ⟨?_, rfl⟩
      cases p.interpret d <;> cases p.interpret d' <;> rfl

theorem confirm_congr {names : List String} (h : r.Alike names r') (expected : Nat) :
    Answer.confirm expected r = Answer.confirm expected r' := by
  cases hs : r.isSuccess with
  | false => rw [h.eq_of_refusal hs]
  | true =>
    have hs' : r'.isSuccess = true := h.isSuccess_eq ▸ hs
    have haccepted : ¬(!r.isSuccess) = true := by simp [hs]
    have haccepted' : ¬(!r'.isSuccess) = true := by simp [hs']
    rw [Answer.confirm, Answer.confirm, if_neg haccepted, if_neg haccepted', h.status]

/-- What is reported behind the beginning of a call does not depend on the secrets in its answer. -/
theorem conclude_congr (h : r.Alike (call.dataNames mount) r') :
    ((call.operation mount).conclude r).events = ((call.operation mount).conclude r').events ∧
      call.probed mount ((call.operation mount).conclude r).result =
        call.probed mount ((call.operation mount).conclude r').result := by
  rw [Operation.conclude_events, Operation.conclude_events, Operation.conclude_result,
    Operation.conclude_result]
  cases hp : call.payload? mount with
  | none =>
    obtain ⟨expected, value, hexit⟩ := exit_of_no_payload hp
    rw [hexit, Exit.read, Exit.read, confirm_congr h]
    exact ⟨rfl, rfl⟩
  | some p =>
    cases hs : r.isSuccess with
    | false =>
      rw [h.eq_of_refusal hs]
      exact ⟨rfl, rfl⟩
    | true =>
      rw [dataNames, hp] at h
      obtain ⟨absent, hexit⟩ := exit_of_payload hp
      obtain ⟨hevents, hsimilar⟩ := (payload_isDiscreet hp).readData_similar h hs
      obtain ⟨hdeeds, hprobed⟩ := reported_of_similar hp hsimilar
      rw [hexit, Exit.read_payload_of_success hs,
        Exit.read_payload_of_success (h.isSuccess_eq ▸ hs), hevents, hdeeds]
      exact ⟨rfl, hprobed⟩

end Call

end VaultPki

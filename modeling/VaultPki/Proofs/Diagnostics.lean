import VaultPki.Proofs.Answers
import VaultPki.Proofs.Outcome
import VaultPki.Proofs.Record.Thorough
import VaultPki.Proofs.Request

/-!
# What a refusal says

An answer that is no success becomes an error with the messages of its body. A body that lists no
messages stands for itself, but for two things that are taken as lists without messages: objects
that say nothing of errors, and lists of at most one item.
-/

namespace VaultPki

open Record
open Json (Document)
open Text.Utf8 (encode)

namespace Refusal

variable {text : String} {errors : List String}

/-- The messages that a text is read as: those of an object under the name of errors, none if the
object has no such member, and the same for a list with the member's value as its item. -/
inductive Lists (text : String) : List String → Prop
  | member {ms : Members} {d : Document} {errors : List String}
    (h : Json.IsObject (encode text) ms) (hmember : named "errors" ms = [d])
    (hd : IsListOf IsText d errors) : Lists text errors
  | noMember {ms : Members} (h : Json.IsObject (encode text) ms)
    (hmember : named "errors" ms = []) : Lists text []
  | item {d : Document} {errors : List String}
    (h : Json.Text.ofBytes (encode text) = ⟨.list [d] none, true⟩)
    (hd : IsListOf IsText d errors) : Lists text errors
  | noItem (h : Json.Text.ofBytes (encode text) = ⟨.list [] none, true⟩) : Lists text []

/-- The messages in an answer with a text: those that it is read as, or the text without the blanks
around it, if anything is left. -/
inductive Explains (text : String) : List String → Prop
  | listed {errors : List String} (h : Lists text errors) : Explains text errors
  | blank (h : ∀ errors, ¬Lists text errors) (hblank : Text.trim text = "") : Explains text []
  | raw (h : ∀ errors, ¬Lists text errors) (htext : Text.trim text ≠ "") :
    Explains text [Text.trim text]

theorem isFlat : layout.IsFlat where
  spread_eq_nil := rfl
  nodup_names := List.nodup_singleton "errors"

theorem isThorough : layout.codec.IsThorough := by
  apply isFlat.isThorough
  intro f hf
  obtain rfl := List.mem_singleton.1 hf
  exact Codec.list_isThorough Codec.text_isThorough

theorem takes_iff {levels : Nat} {ms : Members} :
    Row.Takes (levels + 1) ms layout.own (layout.row ⟨errors⟩).1 ↔
      Holds ms "errors" (IsListOf IsText) (some []) errors := by
  simp [layout, Layout.plain, Row.Takes]

theorem short_eq_absent : ∀ f ∈ layout.own, f.short = f.absent := by
  intro f hf
  obtain rfl := List.mem_singleton.1 hf
  rfl

theorem read_list_iff {items : List Document} :
    layout.read 127 (.list items none) = .ok ⟨errors⟩ ↔
      items.length ≤ 1 ∧
        Holds (inOrder ["errors"] items) "errors" (IsListOf IsText) (some []) errors := by
  rw [← @takes_iff errors 125]
  exact isFlat.read_list_iff short_eq_absent

theorem decode_of_lists (h : Lists text errors) :
    layout.decode (encode text) = .ok ⟨errors⟩ := by
  cases h with
  | member h hmember hd =>
    rw [Layout.decode_of_isObject h, isFlat.read_object_iff h.areWhole, takes_iff]
    exact .inr ⟨_, hmember, hd⟩
  | noMember h hmember =>
    rw [Layout.decode_of_isObject h, isFlat.read_object_iff h.areWhole, takes_iff]
    exact .inl ⟨hmember, rfl⟩
  | item h hd => exact Codec.decode_eq_ok_iff.2 ⟨_, h, read_list_iff.2 ⟨by simp, .inr ⟨_, rfl, hd⟩⟩⟩
  | noItem h => exact Codec.decode_eq_ok_iff.2 ⟨_, h, read_list_iff.2 ⟨by simp, .inl ⟨rfl, rfl⟩⟩⟩

theorem lists_of_decode (h : layout.decode (encode text) = .ok ⟨errors⟩) : Lists text errors := by
  obtain ⟨d, htext, hread⟩ := Codec.decode_eq_ok_iff.1 h
  have hskim : d.skim = none := isThorough 127 d _ hread
  rcases (isFlat.denotes_iff short_eq_absent hskim).1 hread with
    ⟨ms, rfl, hwhole, htakes⟩ | ⟨items, rfl, hlength, htakes⟩
  · rcases takes_iff.1 htakes with ⟨hnone, herrors⟩ | ⟨d, hone, hd⟩
    · obtain rfl := Option.some.inj herrors
      exact .noMember ⟨htext, hwhole⟩ hnone
    · exact .member ⟨htext, hwhole⟩ hone hd
  · rcases takes_iff.1 htakes with ⟨hnone, herrors⟩ | ⟨d, hone, hd⟩
    · obtain rfl := Option.some.inj herrors
      cases items with
      | nil => exact .noItem htext
      | cons d items => cases hnone
    · cases items with
      | nil => cases hone
      | cons d' items =>
        obtain rfl : items = [] :=
          List.length_eq_zero_iff.1 (Nat.le_zero.1 (Nat.le_of_succ_le_succ hlength))
        obtain rfl := List.singleton_inj.1 hone
        exact .item htext hd

theorem lists_iff : Lists text errors ↔ layout.decode (encode text) = .ok ⟨errors⟩ :=
  ⟨decode_of_lists, lists_of_decode⟩

/-- A text says one thing about errors, and that is what is made of it. -/
theorem explains_iff : Explains text errors ↔ errors = ofText text := by
  rw [ofText]
  cases hdecode : layout.decode (encode text) with
  | ok r =>
    have hlists : Lists text r.errors := lists_iff.2 hdecode
    constructor
    · intro hexplains
      cases hexplains with
      | listed h =>
        exact congrArg Refusal.errors (Except.ok.inj ((lists_iff.1 h).symm.trans hdecode))
      | blank h _ => exact absurd hlists (h r.errors)
      | raw h _ => exact absurd hlists (h r.errors)
    · rintro rfl
      exact .listed hlists
  | error p =>
    have hnone : ∀ errors, ¬Lists text errors := by
      intro errors h
      cases (lists_iff.1 h).symm.trans hdecode
    constructor
    · intro hexplains
      cases hexplains with
      | listed h => exact absurd h (hnone _)
      | blank _ hblank =>
        rw [hblank]
        rfl
      | raw _ htext => exact (if_neg (by simpa using htext)).symm
    · rintro rfl
      by_cases hblank : Text.trim text = ""
      · rw [hblank]
        exact .blank hnone hblank
      · rw [if_neg (by simpa using hblank)]
        exact .raw hnone hblank

end Refusal

/-! ## Calls -/

namespace Exit

variable {α : Type} {r : Http.Response}

/-- However an answer is read, a status that is no success is reported with its messages. -/
theorem refused_mem_events (x : Exit α) (h : r.isSuccess = false) :
    .refused r.status (Answer.errors r) ∈ (x.read r).events := by
  have hdata (decode : List UInt8 → Except Error (Envelope (Except Error α))) :
      .refused r.status (Answer.errors r) ∈ (readData decode r).events := by
    rw [readData, Answer.readEnvelope_refused h]
    exact Report.mem_bind_events List.mem_cons_self _
  cases x with
  | confirmation expected value =>
    rw [Exit.read, Answer.confirm_refused h]
    exact Report.mem_bind_events List.mem_cons_self _
  | payload decode absent =>
    cases absent with
    | none => exact hdata decode
    | some a =>
      rw [Exit.read]
      split
      · exact List.mem_cons_self
      · exact hdata decode

end Exit

namespace Call

variable {call : Call} {mount : String}

theorem mem_settle_events {e : Event} {r : Report call.Result} (h : e ∈ r.events) :
    e ∈ (call.settle mount r).events := by
  cases call with
  | isEnabled =>
    obtain ⟨result, requests, events⟩ := r
    cases result with
    | error _ => exact List.mem_append_left _ h
    | ok _ => exact h
  | _ => exact h

theorem refused_mem_perform_events {c : Client} {net : Http.Network} {token : String}
    {r : Http.Response} (hask : c.CanAsk token) (hnet : ∀ q, net q = .answered r)
    (h : r.isSuccess = false) :
    .refused r.status (Answer.errors r) ∈ (call.perform c net mount (.ok token)).events := by
  obtain ⟨q, hq⟩ := (call.operation mount).exists_request hask
  rw [perform_ok, Operation.perform_of_answered hq (hnet q)]
  apply mem_settle_events
  apply List.mem_append_right
  exact Report.mem_bind_events ((call.operation mount).exit.refused_mem_events h) _

end Call

namespace RawCall

variable {c : Client} {net : Http.Network} {token : String} {r : Http.Response}

theorem result_of_refusal (call : RawCall) (hask : c.CanAsk token)
    (hnet : ∀ q, net q = .answered r) (h : r.isSuccess = false) :
    (call.perform c net token).result = .error (.vault r.status (Answer.errors r)) := by
  have hsend (verb : Verb) (path : String) (body : Option Json) : ∃ requests events,
      c.send net token verb path body = ⟨.ok r, requests, events⟩ := by
    obtain ⟨q, hq⟩ := Client.exists_request verb path body hask
    rw [Client.send_of_request hq, Client.deliver, hnet q]
    exact ⟨_, _, rfl⟩
  have henveloped (verb : Verb) (path : String) (body : Option Json) :
      (enveloped c net token verb path body).result =
        .error (.vault r.status (Answer.errors r)) := by
    obtain ⟨requests, events, hreport⟩ := hsend verb path body
    rw [enveloped, hreport, Report.ok_bind, Answer.readEnvelope_refused h]
    rfl
  have hconfirmed (verb : Verb) (path : String) (body : Option Json) (expected : Nat) :
      (confirmed c net token verb path body expected).result =
        .error (.vault r.status (Answer.errors r)) := by
    obtain ⟨requests, events, hreport⟩ := hsend verb path body
    rw [confirmed, hreport, Report.ok_bind, Answer.confirm_refused h]
    rfl
  cases call with
  | read path => exact henveloped .read path none
  | list path => exact henveloped .list path none
  | write path body => exact henveloped .write path (some body)
  | writeOnly path body expected => exact hconfirmed .write path (some body) expected
  | delete path expected => exact hconfirmed .delete path none expected

end RawCall

namespace Client

/-- What a refusal says is kept: whatever was called reports the messages in the text of the answer,
and it fails with them, unless it takes the refusal for its result. -/
theorem messages_of_refusal {c : Client} {net : Http.Network} {token : String} {r : Http.Response}
    (hask : c.CanAsk token) (hnet : ∀ q, net q = .answered r) (h : r.isSuccess = false)
    (hcomplete : r.complete = true) :
    ∃ errors, (∀ e, Refusal.Explains (Text.Utf8.text r.body) e ↔ e = errors) ∧
      (∀ (call : Call) (mount : String),
        .refused r.status errors ∈ (call.perform c net mount (.ok token)).events ∧
        (call ≠ .isEnabled → (call = .listRoles → r.status ≠ 404) →
          (call.perform c net mount (.ok token)).result = .error (.vault r.status errors))) ∧
      ∀ call : RawCall, (call.perform c net token).result = .error (.vault r.status errors) := by
  have herrors : Answer.errors r = Refusal.ofText (Text.Utf8.text r.body) := by
    rw [Answer.errors, if_pos hcomplete]
  refine ⟨Answer.errors r, fun e => ?_, fun call mount => ⟨?_, fun hprobe hlisting => ?_⟩,
    fun call => ?_⟩
  · rw [herrors]
    exact Refusal.explains_iff
  · exact Call.refused_mem_perform_events hask hnet h
  · obtain ⟨q, hq⟩ := (call.operation mount).exists_request hask
    rw [Call.perform_result_of_answered hq (hnet q), Call.read_of_refusal mount call h]
    cases call with
    | isEnabled => exact absurd rfl hprobe
    | listRoles => exact if_neg (hlisting rfl)
    | _ => rfl
  · exact call.result_of_refusal hask hnet h

/-- The server says that it denies the request. -/
def denial : Http.Response :=
  ⟨403, encode "\x7b\"errors\":[\"permission denied\"]\x7d", true⟩

theorem readAuthority_of_denial :
    standard.CanAsk "s.token" ∧ denial.isSuccess = false ∧ denial.complete = true ∧
      (Call.readAuthority.perform standard (fun _ => .answered denial) "pki"
        (.ok "s.token")).result = .error (.vault 403 ["permission denied"]) := by
  have hask : standard.CanAsk "s.token" := standard_canAsk (by decide)
  have hexplains : Refusal.Explains (Text.Utf8.text denial.body) ["permission denied"] := by
    have hobject : Json.IsObject (encode (Text.Utf8.text denial.body))
        [(.ok "errors", .list [.text (.ok "permission denied")] none)] := by
      constructor
      · cbv
      · simp [Members.AreWhole, Document.skim, Document.skimItems]
    exact .listed (.member hobject rfl ⟨_, rfl, .cons rfl .nil⟩)
  obtain ⟨errors, herrors, hcalls, -⟩ :=
    @messages_of_refusal standard (fun _ => .answered denial) "s.token" denial hask (fun _ => rfl)
      rfl rfl
  obtain rfl := (herrors _).1 hexplains
  have hprobe : Call.readAuthority ≠ .isEnabled := Call.noConfusion
  have hlisting : Call.readAuthority ≠ .listRoles := Call.noConfusion
  exact ⟨hask, rfl, rfl, (hcalls .readAuthority "pki").2 hprobe fun h => absurd h hlisting⟩

/-- The server says why it is not available, but not under the name of errors. -/
def sealedObject : Http.Response :=
  ⟨503, encode "\x7b\"message\":\"sealed\"\x7d", true⟩

/-- An object that says nothing of errors leaves no message, though its text is not blank. -/
theorem readAuthority_of_sealedObject :
    Json.IsObject sealedObject.body [(.ok "message", .text (.ok "sealed"))] ∧
    Text.Utf8.text sealedObject.body = "\x7b\"message\":\"sealed\"\x7d" ∧
    Text.trim (Text.Utf8.text sealedObject.body) = Text.Utf8.text sealedObject.body ∧
    (Call.readAuthority.perform standard (fun _ => .answered sealedObject) "pki"
      (.ok "s.token")).result = .error (.vault 503 []) := by
  have herrors : Answer.errors sealedObject = [] := by cbv
  refine ⟨⟨?_, ?_⟩, ?_, ?_, ?_⟩
  · cbv
  · simp [Members.AreWhole, Document.skim]
  · cbv
  · cbv
  · obtain ⟨q, hq⟩ := (Call.readAuthority.operation "pki").exists_request
      (standard_canAsk (show Http.isHeaderValue "s.token" = true by decide))
    rw [Call.perform_result_of_answered hq rfl, Call.read_of_refusal "pki" .readAuthority rfl]
    show Except.error (Error.vault 503 (Answer.errors sealedObject)) = _
    rw [herrors]

end Client

end VaultPki

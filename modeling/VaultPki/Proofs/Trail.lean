import VaultPki.Proofs.Arrival
import VaultPki.Proofs.Event

/-!
# The trail of events

The events of a call tell what happened, whatever the server answers. The call began, if it was
given a token; the server refused, confirmed in another way than expected, or answered without data;
and what the call was to change has been changed, which is told last and only after a success. All
this can be read off the lines in which the events are told.
-/

namespace VaultPki

open Text (begins)
open Event (isAnnouncement isBeginning isRefusal isStray)

namespace Payload

variable {α : Type}

/-- Whether a complete answer has no data, and the reason that it gives. -/
inductive Withholds (p : Payload α) (r : Http.Response) : String → Prop
  | blank (hc : r.complete = true) (hb : r.body.all Text.Ascii.isBlankByte = true) :
    Withholds p r "Unknown remote error"
  | noData {e : Envelope p.Data} (hc : r.complete = true)
      (hb : r.body.all Text.Ascii.isBlankByte = false) (hd : p.decode r.body = .ok e)
      (hn : (Json.Text.ofBytes r.body).document.LacksData) :
    Withholds p r ((e.warnings.bind List.head?).getD "Unknown remote error")

variable {p : Payload α} {r : Http.Response} {reason : String}

theorem Withholds.unique {reason' : String} (h : p.Withholds r reason)
    (h' : p.Withholds r reason') : reason = reason' := by
  cases h with
  | blank hc hb =>
    cases h' with
    | blank => rfl
    | noData _ hb' => simp_all
  | noData hc hb hd hn =>
    cases h' with
    | blank _ hb' => simp_all
    | noData _ _ hd' =>
      cases hd.symm.trans hd'
      rfl

/-- Data that are missing are the only thing about the body of a success that is reported. -/
theorem readData_events (p : Payload α) (h : r.isSuccess = true) :
    (∃ reason, p.Withholds r reason ∧
      Exit.readData (Exit.interpreted p.layout.codec p.interpret) r =
        ⟨.error (.noData reason), [], [.noData reason]⟩) ∨
    (∀ reason, ¬p.Withholds r reason) ∧
      (Exit.readData (Exit.interpreted p.layout.codec p.interpret) r).events = [] := by
  cases hc : r.complete with
  | false =>
    rw [p.readData_cut_short h hc]
    refine .inr ⟨fun reason hw => ?_, rfl⟩
    cases hw <;> simp_all
  | true =>
    cases hb : r.body.all Text.Ascii.isBlankByte with
    | true =>
      rw [readData_of_envelope h hc (p.envelope_of_blank hb)]
      exact .inl ⟨_, .blank hc hb, rfl⟩
    | false =>
      cases hd : p.decode r.body with
      | error problem =>
        rw [readData_of_decode_error h hc hb hd]
        refine .inr ⟨fun reason hw => ?_, rfl⟩
        cases hw <;> simp_all
      | ok e =>
        rw [readData_of_envelope h hc (envelope_of_decode hb hd)]
        cases hs : e.data with
        | none =>
          rw [reason_eq]
          exact .inl ⟨_, .noData hc hb hd ((Envelope.data_eq_none_iff hd).1 hs), rfl⟩
        | some d =>
          refine .inr ⟨fun reason hw => ?_, rfl⟩
          cases hw with
          | blank _ hb' => simp_all
          | noData _ _ hd' hn =>
            rw [← Envelope.data_eq_none_iff hd, hs] at hn
            cases hn

end Payload

namespace Call

variable {call : Call} {c : Client} {net : Http.Network} {mount : String}
  {answer : Except Error String} {r : Http.Response}

/-- The status with which the server confirms a call that only causes an effect. -/
def expectedStatus : Call → Nat
  | tidy _ => 202
  | _ => 204

/-- The line that tells what a call has changed. -/
def change? (mount : String) : (call : Call) → call.Result → Option String
  | installBundle _, _ => some ("INFO Installed CA bundle in " ++ mount)
  | generateRoot _, certificate =>
    some ("INFO Generated root CA " ++ RootCertificate.serial certificate ++ " in " ++ mount)
  | deleteRoot, _ => some ("INFO Deleted root CA in " ++ mount)
  | installIntermediate _, _ => some ("INFO Installed signed intermediate CA in " ++ mount)
  | enable _ _, _ => some ("INFO Enabled PKI engine at " ++ mount)
  | disable, _ => some ("INFO Disabled PKI engine at " ++ mount)
  | _, _ => none

/-- The lines that tell of changes where a call came to a result. -/
def changes (mount : String) (call : Call) : Except Error call.Result → List String
  | .ok value => (call.change? mount value).toList
  | .error _ => []

theorem line_generatedRoot (serial mount : String) :
    (Event.done (.generatedRoot serial) mount).line =
      "INFO Generated root CA " ++ serial ++ " in " ++ mount := by
  show "INFO" ++ " " ++ ("Generated root CA " ++ serial ++ " in " ++ mount) = _
  rw [← String.append_assoc, ← String.append_assoc, ← String.append_assoc]
  rfl

theorem lines_deedEvents (mount : String) (call : Call) (x : Except Error call.Result) :
    ((call.operation mount).deedEvents x).map Event.line =
      call.changes mount (call.settled x) := by
  cases x with
  | error e => cases call <;> rfl
  | ok value =>
    cases call with
    | generateRoot _ => exact congrArg (· :: []) (line_generatedRoot _ mount)
    | installBundle _ | deleteRoot | installIntermediate _ | enable _ _ | disable =>
      exact congrArg (· :: []) (String.append_assoc ..).symm
    | _ => rfl

/-- The only call that probes changes nothing. -/
theorem deedEvents_append_probed (mount : String) (call : Call) (x : Except Error call.Result) :
    (call.operation mount).deedEvents x ++ call.probed mount x =
      call.probed mount x ++ (call.operation mount).deedEvents x := by
  cases call with
  | isEnabled => cases x <;> rfl
  | _ => exact List.append_nil _

/-- What is reported of an answer, and what the call makes of it. -/
inductive Notes (call : Call) (mount : String) (r : Http.Response) :
    Except Error call.Result → List Event → Prop
  | refused {x : Except Error call.Result} (h : r.isSuccess = false) :
    Notes call mount r x [.refused r.status (Answer.errors r)]
  | noRoles {x : Except Error call.Result} (h : r.isSuccess = false) (hc : call = listRoles)
      (hs : r.status = 404) :
    Notes call mount r x [.refused r.status (Answer.errors r), .noRoles mount]
  | confirmed {x : Except Error call.Result} (h : r.isSuccess = true)
      (hp : call.payload? mount = none) (hs : r.status = call.expectedStatus) :
    Notes call mount r x []
  | strayed {x : Except Error call.Result} (h : r.isSuccess = true)
      (hp : call.payload? mount = none) (hs : r.status ≠ call.expectedStatus) :
    Notes call mount r x [.otherStatus call.expectedStatus r.status]
  | withheld {p : Payload call.Result} {reason : String} (h : r.isSuccess = true)
      (hp : call.payload? mount = some p) (hw : p.Withholds r reason) :
    Notes call mount r (.error (.noData reason)) [.noData reason]
  | given {x : Except Error call.Result} {p : Payload call.Result} (h : r.isSuccess = true)
      (hp : call.payload? mount = some p) (hw : ∀ reason, ¬p.Withholds r reason) :
    Notes call mount r x []

theorem eq_expectedStatus {mount : String} {expected : Nat} {value : call.Result}
    (h : (call.operation mount).exit = .confirmation expected value) :
    expected = call.expectedStatus := by
  cases call <;> cases h <;> rfl

theorem eq_listRoles {mount : String} {value : call.Result} {event : Event}
    {decode : List UInt8 → Except Error (Envelope (Except Error call.Result))}
    (h : (call.operation mount).exit = .payload decode (some (value, event))) :
    call = listRoles ∧ event = .noRoles mount := by
  cases call with
  | listRoles =>
    cases h
    exact ⟨rfl, rfl⟩
  | _ => cases h

theorem notes_of_refusal (mount : String) (call : Call) (h : r.isSuccess = false) :
    call.Notes mount r ((call.operation mount).exit.read r).result
      ((call.operation mount).exit.read r).events := by
  have hconfirmation {expected : Nat} {value : call.Result} :
      ((Exit.confirmation expected value).read r).events =
        [.refused r.status (Answer.errors r)] := by
    rw [Exit.read, Answer.confirm_refused h]
    rfl
  have hdata {decode : List UInt8 → Except Error (Envelope (Except Error call.Result))} :
      (Exit.readData decode r).events = [.refused r.status (Answer.errors r)] := by
    rw [Exit.readData, Answer.readEnvelope_refused h]
    rfl
  cases hp : call.payload? mount with
  | none =>
    obtain ⟨expected, value, hexit⟩ := exit_of_no_payload hp
    rw [hexit, hconfirmation]
    exact .refused h
  | some p =>
    obtain ⟨absent, hexit⟩ := exit_of_payload hp
    cases absent with
    | none =>
      rw [hexit, Exit.read, hdata]
      exact .refused h
    | some a =>
      obtain ⟨value, event⟩ := a
      obtain ⟨hcall, rfl⟩ := eq_listRoles hexit
      rw [hexit, Exit.read]
      split
      · exact .noRoles h hcall ‹_›
      · rw [hdata]
        exact .refused h

theorem notes_read (mount : String) (call : Call) (r : Http.Response) :
    call.Notes mount r ((call.operation mount).exit.read r).result
      ((call.operation mount).exit.read r).events := by
  cases h : r.isSuccess with
  | false => exact notes_of_refusal mount call h
  | true =>
    cases hp : call.payload? mount with
    | none =>
      obtain ⟨expected, value, hexit⟩ := exit_of_no_payload hp
      obtain rfl := eq_expectedStatus hexit
      rw [hexit, Exit.read, Answer.confirm, if_neg (by simp [h])]
      split
      · exact .confirmed h hp ‹_›
      · exact .strayed h hp ‹_›
    | some p =>
      obtain ⟨absent, hexit⟩ := exit_of_payload hp
      rw [hexit, Exit.read_payload_of_success h]
      rcases p.readData_events h with ⟨reason, hw, hread⟩ | ⟨hw, hread⟩
      · rw [hread]
        exact .withheld h hp hw
      · rw [hread]
        exact .given h hp hw

namespace Notes

variable {x : Except Error call.Result} {notes : List Event} (h : call.Notes mount r x notes)
include h

theorem filter_beginning : notes.filter isBeginning = [] := by
  cases h <;> rfl

theorem filter_info : notes.filter (fun e => e.level = .info) = [] := by
  cases h <;> rfl

theorem filter_warn (hs : r.isSuccess = true) {p : Payload call.Result} {reason : String}
    (hp : call.payload? mount = some p) (hw : p.Withholds r reason) :
    notes.filter (fun e => e.level = .warn) = [.noData reason] ∧ x = .error (.noData reason) := by
  cases h with
  | withheld _ hp' hw' =>
    cases hp.symm.trans hp'
    cases hw.unique hw'
    exact ⟨rfl, rfl⟩
  | given _ hp' hw' =>
    cases hp.symm.trans hp'
    exact absurd hw (hw' reason)
  | _ => simp_all

theorem filter_warn_of_given (hw : ∀ p reason, r.isSuccess = true →
    call.payload? mount = some p → ¬p.Withholds r reason) :
    notes.filter (fun e => e.level = .warn) = [] := by
  cases h with
  | withheld hs hp hw' => exact absurd hw' (hw _ _ hs hp)
  | _ => rfl

theorem filter_refusal :
    notes.filter isRefusal =
      if r.isSuccess then [] else [.refused r.status (Answer.errors r)] := by
  cases h with
  | refused hs | noRoles hs =>
    rw [hs]
    rfl
  | confirmed hs | strayed hs | withheld hs | given hs =>
    rw [hs]
    rfl

theorem filter_stray (hs : r.isSuccess = true) (hp : call.payload? mount = none) :
    notes.filter isStray =
      if r.status = call.expectedStatus then []
      else [.otherStatus call.expectedStatus r.status] := by
  cases h with
  | confirmed _ _ hstatus =>
    rw [if_pos hstatus]
    rfl
  | strayed _ _ hstatus =>
    rw [if_neg hstatus]
    rfl
  | _ => simp_all

theorem filter_stray_of_not (hs : ¬(r.isSuccess = true ∧ call.payload? mount = none)) :
    notes.filter isStray = [] := by
  cases h with
  | strayed hs' hp _ => exact absurd ⟨hs', hp⟩ hs
  | _ => rfl

end Notes

/-! ## What is told beside an answer -/

theorem eq_of_mem_openings {e : Event} (h : e ∈ call.openings c mount answer) :
    e = (call.operation mount).opening c := by
  cases answer with
  | error _ => cases h
  | ok _ => exact List.mem_singleton.1 h

theorem eq_of_mem_probed {e : Event} {x : Except Error call.Result}
    (h : e ∈ call.probed mount x) : ∃ problem, e = .probeFailed mount problem := by
  cases call with
  | isEnabled =>
    cases x with
    | error problem => exact ⟨problem, List.mem_singleton.1 h⟩
    | ok _ => cases h
  | _ => cases h

theorem eq_of_mem_deedEvents {e : Event} {x : Except Error call.Result}
    (h : e ∈ (call.operation mount).deedEvents x) : ∃ deed, e = .done deed mount := by
  cases x with
  | error _ => cases h
  | ok value =>
    cases call with
    | installBundle _ | generateRoot _ | deleteRoot | installIntermediate _ | enable _ _
    | disable => exact ⟨_, List.mem_singleton.1 h⟩
    | _ => cases h

/-! ## The whole trail -/

/-- Whether a call gets an answer that should have data but has none, for a reason. -/
def IsWithheld (call : Call) (c : Client) (net : Http.Network) (mount : String)
    (answer : Except Error String) (reason : String) : Prop :=
  ∃ r p, call.Receives c net mount answer r ∧ r.isSuccess = true ∧
    call.payload? mount = some p ∧ p.Withholds r reason

/-- What is reported from first to last where a call comes to `x`. -/
def trail (call : Call) (c : Client) (mount : String) (answer : Except Error String)
    (x : Except Error call.Result) (notes : List Event) : List Event :=
  call.openings c mount answer ++
    (notes ++ (call.probed mount x ++ (call.operation mount).deedEvents x))

/-- Notes of an answer, if one arrives. -/
def NotesArrival (call : Call) (c : Client) (net : Http.Network) (mount : String)
    (answer : Except Error String) (x : Except Error call.Result) (notes : List Event) : Prop :=
  (∃ r, call.Receives c net mount answer r ∧ call.Notes mount r x notes) ∨
    (∀ r, ¬call.Receives c net mount answer r) ∧ notes = []

theorem exists_notes (call : Call) (c : Client) (net : Http.Network) (mount : String)
    (answer : Except Error String) : ∃ x notes,
      (call.perform c net mount answer).result = call.settled x ∧
      (call.perform c net mount answer).events = call.trail c mount answer x notes ∧
      call.NotesArrival c net mount answer x notes := by
  by_cases h : ∃ r, call.Receives c net mount answer r
  · obtain ⟨r, h⟩ := h
    -- The deed is told before a failed probe, but no call has both.
    refine ⟨_, _, perform_result_of_receives h, ?_, .inl ⟨r, h, notes_read mount call r⟩⟩
    rw [trail, perform_events_of_receives h, List.append_assoc, List.append_assoc,
      deedEvents_append_probed]
  · have h : ∀ r, ¬call.Receives c net mount answer r := fun r hr => h ⟨r, hr⟩
    obtain ⟨e, hresult, hevents⟩ := perform_of_not_receives h
    refine ⟨.error e, [], hresult, ?_, .inr ⟨h, rfl⟩⟩
    rw [trail, hevents, Operation.deedEvents, List.nil_append, List.append_nil]

private theorem filter_of_forall {es : List Event} {p : Event → Bool} {b : Bool}
    (h : ∀ e ∈ es, p e = b) : es.filter p = if b then es else [] := by
  cases b with
  | false => exact List.filter_eq_nil_iff.2 fun e he => by simp [h e he]
  | true => exact List.filter_eq_self.2 h

/-- Beginnings, failed probes and deeds are each of one kind. -/
theorem filter_trail (begun failed done : Bool) {p : Event → Bool}
    (hbegun : ∀ verb path, p (.started verb path) = begun)
    (hfailed : ∀ m problem, p (.probeFailed m problem) = failed)
    (hdone : ∀ deed m, p (.done deed m) = done) (x : Except Error call.Result)
    (notes : List Event) :
    (call.trail c mount answer x notes).filter p =
      (if begun then call.openings c mount answer else []) ++
        (notes.filter p ++ ((if failed then call.probed mount x else []) ++
          if done then (call.operation mount).deedEvents x else [])) := by
  have hopenings : ∀ e ∈ call.openings c mount answer, p e = begun := fun e he => by
    rw [eq_of_mem_openings he]
    exact hbegun _ _
  have hprobed : ∀ e ∈ call.probed mount x, p e = failed := fun e he => by
    obtain ⟨problem, rfl⟩ := eq_of_mem_probed he
    exact hfailed _ _
  have hdeeds : ∀ e ∈ (call.operation mount).deedEvents x, p e = done := fun e he => by
    obtain ⟨deed, rfl⟩ := eq_of_mem_deedEvents he
    exact hdone _ _
  rw [trail, List.filter_append, List.filter_append, List.filter_append,
    filter_of_forall hopenings, filter_of_forall hprobed, filter_of_forall hdeeds]

/-- Of any other kind there is only what is told of an answer. -/
theorem filter_trail_of_notes {p : Event → Bool}
    (hbegun : ∀ verb path, p (.started verb path) = false)
    (hfailed : ∀ m problem, p (.probeFailed m problem) = false)
    (hdone : ∀ deed m, p (.done deed m) = false) (x : Except Error call.Result)
    (notes : List Event) : (call.trail c mount answer x notes).filter p = notes.filter p := by
  rw [filter_trail false false false hbegun hfailed hdone]
  exact List.append_nil _

namespace NotesArrival

variable {x : Except Error call.Result} {notes : List Event}
  (h : call.NotesArrival c net mount answer x notes)
include h

theorem filter_eq_nil {p : Event → Bool}
    (hp : ∀ r, call.Receives c net mount answer r → call.Notes mount r x notes →
      notes.filter p = []) : notes.filter p = [] := by
  rcases h with ⟨r, hr, h⟩ | ⟨-, rfl⟩
  · exact hp r hr h
  · rfl

theorem notes_of_receives {r : Http.Response} (hr : call.Receives c net mount answer r) :
    call.Notes mount r x notes := by
  rcases h with ⟨r', hr', h⟩ | ⟨hno, -⟩
  · rwa [hr.unique hr']
  · exact absurd hr (hno r)

end NotesArrival

/-! ## Lines -/

/-- The word for a verb, and the method of its request. -/
inductive IsSaid : Verb → String → Http.Method → Prop
  | read : IsSaid .read "GET" .get
  | list : IsSaid .list "LIST" .get
  | write : IsSaid .write "POST" .post
  | delete : IsSaid .delete "DELETE" .delete

theorem isSaid_text (verb : Verb) : IsSaid verb verb.text (Client.method verb) := by
  cases verb with
  | read => exact .read
  | list => exact .list
  | write => exact .write
  | delete => exact .delete

end Call

namespace Report

variable {α : Type}

/-- The lines in which the events of a report are told. -/
def lines (r : Report α) : List String :=
  r.events.map Event.line

/-- The lines of the events with a level. -/
def linesAt (level : Level) (r : Report α) : List String :=
  (r.events.filter fun e => e.level = level).map Event.line

theorem lines_filter {P : String → Bool} {p : Event → Bool} (h : ∀ e : Event, P e.line = p e)
    (r : Report α) : r.lines.filter P = (r.events.filter p).map Event.line := by
  rw [lines, List.filter_map]
  congr 2
  exact funext h

end Report

namespace Call

variable {call : Call} {c : Client} {net : Http.Network} {mount : String}
  {answer : Except Error String}

/-- The path of the address that a call asks. -/
def askedPath (call : Call) (c : Client) (mount : String) : String :=
  (c.config.address (call.operation mount).path).pathText

/-- Whether a target has a path, perhaps with more behind a question mark. -/
def HasPath (target path : String) : Prop :=
  ∃ rest, target.toList = path.toList ++ rest ∧ (rest = [] ∨ ∃ query, rest = '?' :: query)

/-- Whether the events of a report tell how a call went. -/
structure IsTold (call : Call) (c : Client) (net : Http.Network) (mount : String)
    (answer : Except Error String) (report : Report call.Result) : Prop where
  begun : ∀ token, answer = .ok token → ∃ word method line,
    IsSaid (call.operation mount).verb word method ∧
      line = "DEBUG " ++ word ++ " " ++ call.askedPath c mount ∧
      report.lines.head? = some line ∧ report.lines.filter isAnnouncement = [line] ∧
      ∀ q ∈ report.requests, q.method = method ∧ HasPath q.target (call.askedPath c mount)
  notBegun : ∀ e, answer = .error e → report.lines.filter isAnnouncement = []
  changed : ∀ value line, report.result = .ok value → call.change? mount value = some line →
    report.linesAt .info = [line] ∧ report.lines.getLast? = some line
  unchanged : (∀ value line, report.result = .ok value → call.change? mount value ≠ some line) →
    report.linesAt .info = []
  warned : ∀ reason, call.IsWithheld c net mount answer reason →
    report.linesAt .warn = ["WARN Vault response carried no data: " ++ reason] ∧
      report.result = call.settled (.error (.noData reason))
  notWarned : (∀ reason, ¬call.IsWithheld c net mount answer reason) → report.linesAt .warn = []
  refused : ∀ r, call.Receives c net mount answer r → r.isSuccess = false →
    report.lines.filter (begins "DEBUG Vault returned ") =
      ["DEBUG Vault returned " ++ r.status.repr ++ ": " ++
        Text.shownList Text.quoted (Answer.errors r)]
  notRefused : (∀ r, call.Receives c net mount answer r → r.isSuccess = true) →
    report.lines.filter (begins "DEBUG Vault returned ") = []
  strayed : ∀ r, call.Receives c net mount answer r → r.isSuccess = true →
    call.payload? mount = none → r.status ≠ call.expectedStatus →
    report.lines.filter (begins "DEBUG Expected status ") =
      ["DEBUG Expected status " ++ call.expectedStatus.repr ++ ", got " ++ r.status.repr]
  notStrayed : (∀ r, call.Receives c net mount answer r → r.isSuccess = true →
      call.payload? mount = none → r.status = call.expectedStatus) →
    report.lines.filter (begins "DEBUG Expected status ") = []

theorem asked_of_mem_requests {token : String} {q : Http.Request}
    (h : q ∈ (call.perform c net mount (.ok token)).requests) :
    q.method = Client.method (call.operation mount).verb ∧
      HasPath q.target (call.askedPath c mount) := by
  rw [perform_ok, settle_requests] at h
  obtain ⟨headers, rfl⟩ :=
    Client.exists_headers_of_request (Operation.request_of_mem_requests h)
  exact ⟨rfl, Client.exists_target_destination _ _⟩

section

variable {report : Report call.Result} {x : Except Error call.Result} {notes : List Event}
  (hevents : report.events = call.trail c mount answer x notes)
include hevents

theorem announcements_eq (hnotes : call.NotesArrival c net mount answer x notes) :
    report.lines.filter isAnnouncement = (call.openings c mount answer).map Event.line := by
  rw [Report.lines_filter Event.isAnnouncement_line, hevents,
    filter_trail true false false (fun _ _ => rfl) (fun _ _ => rfl) (fun _ _ => rfl),
    hnotes.filter_eq_nil fun r _ h => h.filter_beginning]
  simp

theorem linesAt_info (hnotes : call.NotesArrival c net mount answer x notes) :
    report.linesAt .info = call.changes mount (call.settled x) := by
  rw [Report.linesAt, hevents,
    filter_trail false false true (fun _ _ => rfl) (fun _ _ => rfl) (fun _ _ => rfl),
    hnotes.filter_eq_nil fun r _ h => h.filter_info, ← lines_deedEvents]
  simp

theorem linesAt_warn : report.linesAt .warn =
    (notes.filter fun e => e.level = .warn).map Event.line := by
  rw [Report.linesAt, hevents, filter_trail_of_notes (fun _ _ => rfl) (fun _ _ => rfl)
    (fun _ _ => rfl)]

theorem refusals_eq : report.lines.filter (begins "DEBUG Vault returned ") =
    (notes.filter isRefusal).map Event.line := by
  rw [Report.lines_filter Event.begins_returned_line, hevents, filter_trail_of_notes
    (fun _ _ => rfl) (fun _ _ => rfl) (fun _ _ => rfl)]

theorem strays_eq : report.lines.filter (begins "DEBUG Expected status ") =
    (notes.filter isStray).map Event.line := by
  rw [Report.lines_filter Event.begins_expected_line, hevents, filter_trail_of_notes
    (fun _ _ => rfl) (fun _ _ => rfl) (fun _ _ => rfl)]

/-- What has been changed is told last. -/
theorem getLast?_lines {line : String} (h : call.changes mount (call.settled x) = [line]) :
    report.lines.getLast? = some line := by
  rw [Report.lines, hevents, trail, List.map_append, List.map_append, List.map_append,
    lines_deedEvents, h]
  simp

end

/-- The events of every call tell how it went, whatever the source of tokens and the server say. A
call begins exactly if it is given a token, which is told first and once; what it has changed is
told last, once and only after a success. That data are missing is the only warning, and whoever
reads it finds the same reason in the error. A refusal is told once if the server refuses, and a
status other than the expected one if it confirms an effect with it. -/
theorem perform_isTold (call : Call) (c : Client) (net : Http.Network) (mount : String)
    (answer : Except Error String) :
    call.IsTold c net mount answer (call.perform c net mount answer) := by
  obtain ⟨x, notes, hresult, hevents, hnotes⟩ := exists_notes call c net mount answer
  constructor
  case begun =>
    rintro token rfl
    have hline : ((call.operation mount).opening c).line =
        "DEBUG " ++ (call.operation mount).verb.text ++ " " ++ call.askedPath c mount :=
      Event.line_started _ _
    refine ⟨_, _, _, isSaid_text _, rfl, ?_, ?_, fun q => asked_of_mem_requests⟩
    · rw [← hline, Report.lines, hevents]
      rfl
    · rw [← hline, announcements_eq hevents hnotes]
      rfl
  case notBegun =>
    rintro e rfl
    rw [announcements_eq hevents hnotes]
    rfl
  case changed =>
    intro value line hvalue hline
    have hchanges : call.changes mount (call.settled x) = [line] := by
      rw [← hresult, hvalue, changes, hline]
      rfl
    exact ⟨(linesAt_info hevents hnotes).trans hchanges, getLast?_lines hevents hchanges⟩
  case unchanged =>
    intro hno
    rw [linesAt_info hevents hnotes, ← hresult]
    cases hvalue : (call.perform c net mount answer).result with
    | error e => rfl
    | ok value =>
      rw [changes, Option.eq_none_iff_forall_ne_some.2 fun line => hno value line hvalue]
      rfl
  case warned =>
    rintro reason ⟨r, p, hr, hs, hp, hw⟩
    obtain ⟨hwarn, rfl⟩ := (hnotes.notes_of_receives hr).filter_warn hs hp hw
    rw [linesAt_warn hevents, hwarn]
    exact ⟨congrArg (· :: []) (Event.line_noData reason), hresult⟩
  case notWarned =>
    intro hno
    rw [linesAt_warn hevents, hnotes.filter_eq_nil fun r hr h =>
      h.filter_warn_of_given fun p reason hs hp hw => hno reason ⟨r, p, hr, hs, hp, hw⟩]
    rfl
  case refused =>
    intro r hr hs
    rw [refusals_eq hevents, (hnotes.notes_of_receives hr).filter_refusal, hs]
    exact congrArg (· :: []) (Event.line_refused _ _)
  case notRefused =>
    intro hsuccess
    rw [refusals_eq hevents, hnotes.filter_eq_nil fun r hr h => by
      rw [h.filter_refusal, hsuccess r hr]
      rfl]
    rfl
  case strayed =>
    intro r hr hs hp hstatus
    rw [strays_eq hevents, (hnotes.notes_of_receives hr).filter_stray hs hp, if_neg hstatus]
    exact congrArg (· :: []) (Event.line_otherStatus _ _)
  case notStrayed =>
    intro hexpected
    have hstray : notes.filter isStray = [] := hnotes.filter_eq_nil fun r hr h => by
      by_cases hconfirms : r.isSuccess = true ∧ call.payload? mount = none
      · rw [h.filter_stray hconfirms.1 hconfirms.2, if_pos (hexpected r hr hconfirms.1 hconfirms.2)]
      · exact h.filter_stray_of_not hconfirms
    rw [strays_eq hevents, hstray]
    rfl

end Call

end VaultPki

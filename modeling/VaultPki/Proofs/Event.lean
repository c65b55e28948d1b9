import Mathlib.Data.List.Basic
import VaultPki.Event

/-!
# Lines of events

An event is told in a line that begins with its level. The words behind it say what kind of event it
is, so whoever reads the lines can tell the levels and the kinds apart.
-/

namespace VaultPki

namespace Text

/-- Whether a text begins with some words. -/
def begins (words s : String) : Bool :=
  words.toList.isPrefixOf s.toList

theorem begins_iff {words s : String} : begins words s = true ↔ words.toList <+: s.toList :=
  List.isPrefixOf_iff_prefix

/-- What a text begins with is decided by its front, if that is long enough or already differs. -/
theorem begins_append {words front : String}
    (h : begins words front = true ∨ begins front words = false) (rest : String) :
    begins words (front ++ rest) = begins words front := by
  rw [Bool.eq_iff_iff, begins_iff, begins_iff, String.toList_append]
  constructor
  · intro hp
    rcases List.prefix_or_prefix_of_prefix hp (List.prefix_append _ _) with hp | hp
    · exact hp
    · exact begins_iff.1 (h.resolve_right (by simp [begins_iff.2 hp]))
  · exact fun hp => hp.trans (List.prefix_append _ _)

end Text

open Text (begins begins_append)

namespace Event

variable {e : Event}

/-! ## The wording of each kind -/

theorem line_ignoredHeader (name : String) :
    (ignoredHeader name).line = "WARN Ignoring invalid additional header '" ++ name ++ "'" := by
  show "WARN" ++ " " ++ ("Ignoring invalid additional header '" ++ name ++ "'") = _
  rw [← String.append_assoc, ← String.append_assoc]
  rfl

theorem line_started (verb : Verb) (path : String) :
    (started verb path).line = "DEBUG " ++ verb.text ++ " " ++ path := by
  show "DEBUG" ++ " " ++ (verb.text ++ " " ++ path) = _
  rw [← String.append_assoc, ← String.append_assoc]
  rfl

theorem line_refused (status : Nat) (errors : List String) :
    (refused status errors).line =
      "DEBUG Vault returned " ++ status.repr ++ ": " ++ Text.shownList Text.quoted errors := by
  show "DEBUG" ++ " " ++ ("Vault returned " ++ _ ++ _ ++ _) = _
  rw [← String.append_assoc, ← String.append_assoc, ← String.append_assoc]
  rfl

theorem line_otherStatus (expected status : Nat) :
    (otherStatus expected status).line =
      "DEBUG Expected status " ++ expected.repr ++ ", got " ++ status.repr := by
  show "DEBUG" ++ " " ++ ("Expected status " ++ _ ++ _ ++ _) = _
  rw [← String.append_assoc, ← String.append_assoc, ← String.append_assoc]
  rfl

theorem line_noRoles (mount : String) :
    (noRoles mount).line = "DEBUG No roles under " ++ mount := by
  show "DEBUG" ++ " " ++ ("No roles under " ++ mount) = _
  rw [← String.append_assoc]
  rfl

theorem line_noData (reason : String) :
    (noData reason).line = "WARN Vault response carried no data: " ++ reason := by
  show "WARN" ++ " " ++ ("Vault response carried no data: " ++ reason) = _
  rw [← String.append_assoc]
  rfl

theorem line_probeFailed (mount : String) (problem : Error) :
    (probeFailed mount problem).line =
      "DEBUG PKI probe of " ++ mount ++ " failed: " ++ problem.message := by
  show "DEBUG" ++ " " ++ ("PKI probe of " ++ mount ++ _ ++ _) = _
  rw [← String.append_assoc, ← String.append_assoc, ← String.append_assoc]
  rfl

theorem line_done (deed : Deed) (mount : String) :
    (done deed mount).line = "INFO " ++ deed.message mount :=
  rfl

/-! ## Telling the kinds apart -/

/-- The words with which the line of an event begins. -/
def front : Event → String
  | ignoredHeader _ => "WARN Ignoring invalid additional header '"
  | started .read _ => "DEBUG GET "
  | started .list _ => "DEBUG LIST "
  | started .write _ => "DEBUG POST "
  | started .delete _ => "DEBUG DELETE "
  | refused _ _ => "DEBUG Vault returned "
  | otherStatus _ _ => "DEBUG Expected status "
  | noRoles _ => "DEBUG No roles under "
  | noData _ => "WARN Vault response carried no data: "
  | probeFailed _ _ => "DEBUG PKI probe of "
  | done _ _ => "INFO "

def fronts : List String := [
  "WARN Ignoring invalid additional header '", "DEBUG GET ", "DEBUG LIST ", "DEBUG POST ",
  "DEBUG DELETE ", "DEBUG Vault returned ", "DEBUG Expected status ", "DEBUG No roles under ",
  "WARN Vault response carried no data: ", "DEBUG PKI probe of ", "INFO "]

theorem front_mem (e : Event) : e.front ∈ fronts := by
  cases e with
  | started verb _ => cases verb <;> simp [front, fronts]
  | _ => simp [front, fronts]

theorem exists_line_eq (e : Event) : ∃ rest, e.line = e.front ++ rest := by
  cases e with
  | ignoredHeader name => exact ⟨_, (line_ignoredHeader name).trans (String.append_assoc ..)⟩
  | started verb path =>
    refine ⟨path, (line_started verb path).trans ?_⟩
    cases verb <;> rfl
  | refused status errors =>
    rw [line_refused, String.append_assoc, String.append_assoc]
    exact ⟨_, rfl⟩
  | otherStatus expected status =>
    rw [line_otherStatus, String.append_assoc, String.append_assoc]
    exact ⟨_, rfl⟩
  | noRoles mount => exact ⟨_, line_noRoles mount⟩
  | noData reason => exact ⟨_, line_noData reason⟩
  | probeFailed mount problem =>
    rw [line_probeFailed, String.append_assoc, String.append_assoc]
    exact ⟨_, rfl⟩
  | done deed mount => exact ⟨_, line_done deed mount⟩

/-- Words by which lines are told apart, whatever stands behind their fronts. -/
def AreTelling (words : String) : Prop :=
  ∀ f ∈ fronts, begins words f = true ∨ begins f words = false

instance (words : String) : Decidable (AreTelling words) :=
  inferInstanceAs (Decidable (∀ f ∈ fronts, _))

theorem begins_line {words : String} (h : AreTelling words) (e : Event) :
    begins words e.line = begins words e.front := by
  obtain ⟨rest, hline⟩ := e.exists_line_eq
  rw [hline, begins_append (h _ e.front_mem)]

/-- Whether a line says that a call begins. -/
def isAnnouncement (line : String) : Bool :=
  begins "DEBUG GET " line || begins "DEBUG LIST " line || begins "DEBUG POST " line ||
    begins "DEBUG DELETE " line

def isBeginning : Event → Bool
  | started _ _ => true
  | _ => false

def isRefusal : Event → Bool
  | refused _ _ => true
  | _ => false

def isStray : Event → Bool
  | otherStatus _ _ => true
  | _ => false

theorem isAnnouncement_line (e : Event) : isAnnouncement e.line = e.isBeginning := by
  rw [isAnnouncement, begins_line (by decide), begins_line (by decide), begins_line (by decide),
    begins_line (by decide)]
  cases e with
  | started verb _ => cases verb <;> simp only [front, isBeginning] <;> decide
  | _ => simp only [front, isBeginning]; decide

theorem begins_returned_line (e : Event) : begins "DEBUG Vault returned " e.line = e.isRefusal := by
  rw [begins_line (by decide)]
  cases e with
  | started verb _ => cases verb <;> simp only [front, isRefusal] <;> decide
  | _ => simp only [front, isRefusal]; decide

theorem begins_expected_line (e : Event) : begins "DEBUG Expected status " e.line = e.isStray := by
  rw [begins_line (by decide)]
  cases e with
  | started verb _ => cases verb <;> simp only [front, isStray] <;> decide
  | _ => simp only [front, isStray]; decide

end Event

end VaultPki

import VaultPki.Name.KeyType
import VaultPki.Name.KeyUsage
import VaultPki.Proofs.Attempt.First

/-!
# Names that are recognised

Every vocabulary recognises the names of its own values, so lists of names are read back as the
values that they name. A text is recognised exactly if it is such a name up to the case of its
letters, and of several texts that are not, the first is the one that is reported.
-/

namespace VaultPki

namespace Vocabulary

open Attempt

variable {α : Type} [Vocabulary α]

/-- Whether every value is found under its own name. -/
def IsRecognised (α : Type) [Vocabulary α] : Prop :=
  ∀ a : α, ofName? (name a) = some a

theorem ofName_of_ofName? {s : String} {a : α} (h : ofName? s = some a) : ofName s = .ok a := by
  rw [ofName, h]

theorem ofNames_names (hα : IsRecognised α) (as : List α) : ofNames (names as) = .ok as := by
  induction as with
  | nil => rfl
  | cons a as ih =>
    have ha : ofName (name a) = .ok a := ofName_of_ofName? (hα a)
    rw [names] at ih
    rw [names, List.map_cons, ofNames, ha, ih]
    rfl

theorem ofOptionalNames_map_names (hα : IsRecognised α) (o : Option (List α)) :
    ofOptionalNames (o.map names) = .ok o := by
  cases o with
  | none => rfl
  | some as =>
    rw [Option.map_some, ofOptionalNames, ofNames_names hα]
    rfl

/-! ## Spellings -/

/-- Whether a text is the name of a value up to the case of ASCII letters. -/
def Spells (s : String) (a : α) : Prop :=
  Text.Ascii.lower s = Text.Ascii.lower (name a)

/-- Whether a text is the name of some value up to the case of ASCII letters. -/
def IsKnown (α : Type) [Vocabulary α] (s : String) : Prop :=
  ∃ a : α, Spells s a

theorem spells_iff {s : String} {a : α} : Spells s a ↔ Text.Ascii.sameFolded s (name a) = true := by
  rw [Spells, Text.Ascii.lower, Text.Ascii.lower, String.ofList_inj, Text.Ascii.sameFolded,
    beq_iff_eq]

/-- Texts that differ in the case of ASCII letters only are names of the same values. -/
theorem ofName?_congr {s t : String} (h : Text.Ascii.lower s = Text.Ascii.lower t) :
    (ofName? s : Option α) = ofName? t := by
  have hfold : Text.Ascii.fold s = Text.Ascii.fold t := String.ofList_injective h
  unfold ofName? Text.Ascii.sameFolded
  rw [hfold]

theorem ofName?_eq_some_iff (hα : IsRecognised α) {s : String} {a : α} :
    ofName? s = some a ↔ Spells s a := by
  constructor
  · intro h
    have hfolded := List.find?_some h
    exact spells_iff.2 hfolded
  · intro h
    rw [ofName?_congr h, hα]

theorem Spells.unique (hα : IsRecognised α) {s : String} {a b : α} (h : Spells s a)
    (h' : Spells s b) : a = b :=
  Option.some.inj (((ofName?_eq_some_iff hα).2 h).symm.trans ((ofName?_eq_some_iff hα).2 h'))

theorem ofName_eq_ok_iff (hα : IsRecognised α) {s : String} {a : α} :
    ofName s = .ok a ↔ Spells s a := by
  rw [← ofName?_eq_some_iff hα, ofName]
  cases (ofName? s : Option α) with
  | none => exact iff_of_false nofun nofun
  | some b => rw [Except.ok.injEq, Option.some.injEq]

/-! ## Lists of spellings -/

theorem ofNames_eq_ok_iff (hα : IsRecognised α) {ss : List String} {as : List α} :
    ofNames ss = .ok as ↔ List.Forall₂ Spells ss as := by
  induction ss generalizing as with
  | nil => simp [ofNames, eq_comm]
  | cons s ss ih =>
    simp only [ofNames, Attempt.bind_eq_ok_iff, ofName_eq_ok_iff hα, ih,
      List.forall₂_cons_left_iff]
    constructor
    · rintro ⟨a, ha, rest, hrest, has⟩
      exact ⟨a, rest, ha, hrest, (Except.ok.inj has).symm⟩
    · rintro ⟨a, rest, ha, hrest, rfl⟩
      exact ⟨a, ha, rest, hrest, rfl⟩

theorem ofOptionalName_eq_ok_iff (hα : IsRecognised α) {o : Option String} {v : Option α} :
    ofOptionalName o = .ok v ↔ Option.Rel Spells o v := by
  cases o with
  | none => cases v <;> simp [ofOptionalName]
  | some s =>
    rw [ofOptionalName, Attempt.map_eq_ok_iff]
    simp only [ofName_eq_ok_iff hα]
    cases v <;> simp

theorem ofOptionalNames_eq_ok_iff (hα : IsRecognised α) {o : Option (List String)}
    {v : Option (List α)} :
    ofOptionalNames o = .ok v ↔ Option.Rel (List.Forall₂ Spells) o v := by
  cases o with
  | none => cases v <;> simp [ofOptionalNames]
  | some ss =>
    rw [ofOptionalNames, Attempt.map_eq_ok_iff]
    simp only [ofNames_eq_ok_iff hα]
    cases v <;> simp

/-! ## Unknown names -/

theorem ofName_failsAtFirst (hα : IsRecognised α) (s : String) :
    FailsAtFirst (IsKnown α) (Error.unknownName (subject α)) [s] (ofName s : Except Error α) := by
  intro e
  simp only [isFirstWithout_cons_iff, not_isFirstWithout_nil, IsKnown, ← ofName?_eq_some_iff hα,
    ← Option.isSome_iff_exists]
  rw [ofName]
  cases (ofName? s : Option α) with
  | none => simp [eq_comm]
  | some a => simp

theorem ofNames_failsAtFirst (hα : IsRecognised α) (ss : List String) :
    FailsAtFirst (IsKnown α) (Error.unknownName (subject α)) ss
      (ofNames ss : Except Error (List α)) := by
  induction ss with
  | nil => exact .ok []
  | cons s ss ih =>
    exact (ofName_failsAtFirst hα s).bind fun a => ih.bind_return

theorem ofOptionalName_failsAtFirst (hα : IsRecognised α) (o : Option String) :
    FailsAtFirst (IsKnown α) (Error.unknownName (subject α)) o.toList
      (ofOptionalName o : Except Error (Option α)) := by
  cases o with
  | none => exact .ok none
  | some s => exact (ofName_failsAtFirst hα s).map

theorem ofOptionalNames_failsAtFirst (hα : IsRecognised α) (o : Option (List String)) :
    FailsAtFirst (IsKnown α) (Error.unknownName (subject α)) (o.getD [])
      (ofOptionalNames o : Except Error (Option (List α))) := by
  cases o with
  | none => exact .ok none
  | some ss => exact (ofNames_failsAtFirst hα ss).map

end Vocabulary

open Vocabulary

theorem KeyUsage.isRecognised : IsRecognised KeyUsage := by
  intro a
  cases a <;> decide

theorem ExtendedKeyUsage.isRecognised : IsRecognised ExtendedKeyUsage := by
  intro a
  cases a <;> decide

theorem KeyType.isRecognised : IsRecognised KeyType := by
  intro a
  cases a <;> decide

theorem KeyType.ofName?_wire (k : KeyType) : ofName? k.wire = some k := by
  cases k <;> decide

theorem KeyType.ofOptionalName_map_wire (o : Option KeyType) :
    ofOptionalName (o.map KeyType.wire) = .ok o := by
  cases o with
  | none => rfl
  | some k =>
    rw [Option.map_some, ofOptionalName, ofName_of_ofName? k.ofName?_wire]
    rfl

theorem KeyType.map_wire_inj {o o' : Option KeyType} :
    o.map KeyType.wire = o'.map KeyType.wire ↔ o = o' := by
  constructor
  · intro h
    have hname := KeyType.ofOptionalName_map_wire o
    rw [h, KeyType.ofOptionalName_map_wire o'] at hname
    exact (Except.ok.inj hname).symm
  · rintro rfl
    rfl

end VaultPki

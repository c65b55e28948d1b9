import VaultPki.Proofs.Record.Members
import VaultPki.Proofs.Record.Reading

/-!
# Shapes of values

What the codecs of single values read, said without them: which documents stand for a text, a list
of texts, a flag, a number or a duration.
-/

namespace VaultPki.Record

open VaultPki.Json (Document Problem)

variable {α : Type} {levels : Nat}

def IsText (d : Document) (s : String) : Prop :=
  d = .text (.ok s)

def IsFlag (d : Document) (b : Bool) : Prop :=
  d = .bool b

def IsUInt32 (d : Document) (n : UInt32) : Prop :=
  d = .integer n.toNat

def IsInt64 (d : Document) (n : Int64) : Prop :=
  d = .integer n.toInt

/-- A text as it is, or an integer of 64 bits, which stands for its decimal digits. -/
def IsDuration (d : Document) (s : String) : Prop :=
  IsText d s ∨ ∃ n, IsInt64 d n ∧ s = n.toInt.repr

def IsListOf (R : Document → α → Prop) (d : Document) (as : List α) : Prop :=
  ∃ items, d = .list items none ∧ List.Forall₂ R items as

/-- A value, or `null` for none. -/
def OrNull (R : Document → α → Prop) (d : Document) (v : Option α) : Prop :=
  (d = .null ∧ v = none) ∨ d ≠ .null ∧ ∃ a, R d a ∧ v = some a

/-- Whether the members of a name stand for a value that may be absent, as it is where there are none
or there is one that is `null`. -/
def MayHold (ms : Members) (name : String) (R : Document → α → Prop) (v : Option α) : Prop :=
  Holds ms name (OrNull R) (some none) v

theorem MayHold.congr {ms : Members} {name : String} {R R' : Document → α → Prop}
    {v : Option α} (h : ∀ d ∈ named name ms, ∀ a, R d a ↔ R' d a) :
    MayHold ms name R v ↔ MayHold ms name R' v := by
  apply or_congr_right
  apply exists_congr
  intro d
  apply and_congr_right
  intro hd
  have hR (a : α) : R d a ↔ R' d a := h d (hd ▸ List.mem_singleton_self d) a
  simp only [OrNull, hR]

section

variable {ms : Members} {name : String} {R : Document → α → Prop} {v : Option α}

theorem mayHold_of_one {d : Document} (h : named name ms = [d]) :
    MayHold ms name R v ↔ OrNull R d v := by
  simp [MayHold, Holds, h]

theorem mayHold_besides {other : String} (h : name ≠ other) :
    MayHold (besides other ms) name R v ↔ MayHold ms name R v :=
  Holds.congr (.of_eq (named_besides h ms))

theorem mayHold_besides_self : MayHold (besides name ms) name R v ↔ v = none := by
  have hnil : named name (besides name ms) = [] := by
    rw [named, besides, List.filter_filter]
    simp
  simp [MayHold, Holds, hnil, eq_comm]

end

/-! ## Codecs -/

namespace Codec

variable {c : Codec α}

@[simp] theorem denotes_text : text.Denotes levels = IsText := by
  ext d s
  cases d with
  | text content => cases content <;> simp [Denotes, text, IsText]
  | _ => simp [Denotes, text, IsText]

@[simp] theorem denotes_flag : flag.Denotes levels = IsFlag := by
  ext d b
  cases d <;> simp [Denotes, flag, IsFlag]

theorem integer_read_eq_ok_iff {narrow : Int → Option α} {widen : α → Int} {d : Document} {a : α} :
    (integer narrow widen).read levels d = .ok a ↔ ∃ n, d = .integer n ∧ narrow n = some a := by
  cases d with
  | integer n => cases h : narrow n <;> simp [integer, h]
  | _ => simp [integer]

@[simp] theorem denotes_uint32 : uint32.Denotes levels = IsUInt32 := by
  ext d n
  simp [Denotes, uint32, integer_read_eq_ok_iff, narrowUInt32_eq_some_iff, IsUInt32]

@[simp] theorem denotes_int64 : int64.Denotes levels = IsInt64 := by
  ext d n
  simp [Denotes, int64, integer_read_eq_ok_iff, narrowInt64_eq_some_iff, IsInt64]

theorem readItems_eq_ok_iff {items : List Document} {stop : Option Json.Break} {as : List α} :
    readItems c levels items stop = .ok as ↔
      stop = none ∧ List.Forall₂ (c.Denotes levels) items as := by
  induction items generalizing as with
  | nil => cases stop <;> simp [readItems, eq_comm]
  | cons d items ih =>
    rw [readItems, List.forall₂_cons_left_iff]
    cases hread : c.read levels d with
    | error p => simp [Denotes, hread]
    | ok a =>
      simp only [Attempt.map_eq_ok_iff, ih, Denotes, hread]
      constructor
      · rintro ⟨rest, ⟨hstop, hrest⟩, rfl⟩
        exact ⟨hstop, a, rest, rfl, hrest, rfl⟩
      · rintro ⟨hstop, a', rest, ha, hrest, rfl⟩
        obtain rfl := Except.ok.inj ha
        exact ⟨rest, ⟨hstop, hrest⟩, rfl⟩

@[simp] theorem denotes_list :
    c.list.Denotes (levels + 1) = IsListOf (c.Denotes levels) := by
  ext d as
  cases d with
  | list items stop =>
    refine readItems_eq_ok_iff.trans ?_
    simp [IsListOf]
  | _ => simp [Denotes, list, IsListOf]

@[simp] theorem denotes_nullable : c.nullable.Denotes levels = OrNull (c.Denotes levels) := by
  ext d v
  by_cases hd : d = .null
  · subst hd
    simp [Denotes, nullable, OrNull, eq_comm]
  · rw [Denotes, nullable_read_of_ne_null hd, Attempt.map_eq_ok_iff]
    simp [OrNull, hd, Denotes, eq_comm]

theorem durationText?_eq_some_iff {j : Json} {s : String} :
    durationText? j = some s ↔ j = .text s ∨ ∃ n : Int64, j = .integer n.toInt ∧ s = n.toInt.repr := by
  cases j with
  | integer n =>
    rw [durationText?, Option.map_eq_some_iff]
    simp only [narrowInt64_eq_some_iff, @eq_comm String s]
    simp
  | _ => simp [durationText?]

theorem value_eq_text_iff {d : Document} {s : String} :
    d.value levels = .ok (.text s) ↔ IsText d s := by
  cases d with
  | text content => cases content <;> simp [Document.value, IsText, Except.map]
  | real literal finite => cases finite <;> simp [Document.value, IsText]
  | list items stop => cases levels <;> simp [Document.value, IsText, Attempt.map_eq_ok_iff]
  | object ms stop =>
    cases levels <;> simp [Document.value, IsText, Attempt.map_eq_ok_iff, Json.ofMembers]
  | _ => simp [Document.value, IsText]

theorem value_eq_integer_iff {d : Document} {n : Int} :
    d.value levels = .ok (.integer n) ↔ d = .integer n := by
  cases d with
  | text content => cases content <;> simp [Document.value, Except.map]
  | real literal finite => cases finite <;> simp [Document.value]
  | list items stop => cases levels <;> simp [Document.value, Attempt.map_eq_ok_iff]
  | object ms stop =>
    cases levels <;> simp [Document.value, Attempt.map_eq_ok_iff, Json.ofMembers]
  | _ => simp [Document.value]

theorem duration_read_of_ne_null {d : Document} (h : d ≠ .null) {v : Option String} :
    duration.read levels d = .ok v ↔
      ∃ j s, d.value levels = .ok j ∧ durationText? j = some s ∧ v = some s := by
  constructor
  · intro hread
    simp only [duration] at hread
    split at hread
    · cases hread
    · next j hj =>
      split at hread
      · cases hread
      · next s hs => exact ⟨j, s, hj, hs, (Except.ok.inj hread).symm⟩
  · rintro ⟨j, s, hj, hs, rfl⟩
    simp only [duration, hj, hs]

@[simp] theorem denotes_duration : duration.Denotes levels = OrNull IsDuration := by
  ext d v
  by_cases hd : d = .null
  · subst hd
    simp [Denotes, duration, OrNull, eq_comm]
  · rw [Denotes, duration_read_of_ne_null hd]
    simp only [durationText?_eq_some_iff, OrNull, hd, false_and, false_or, not_false_eq_true, ne_eq,
      true_and, IsDuration]
    constructor
    · rintro ⟨j, s, hj, rfl | ⟨n, rfl, hs⟩, rfl⟩
      · exact ⟨s, .inl (value_eq_text_iff.1 hj), rfl⟩
      · exact ⟨s, .inr ⟨n, value_eq_integer_iff.1 hj, hs⟩, rfl⟩
    · rintro ⟨s, htext | ⟨n, hn, hs⟩, rfl⟩
      · exact ⟨.text s, s, value_eq_text_iff.2 htext, .inl rfl, rfl⟩
      · exact ⟨.integer n.toInt, s, value_eq_integer_iff.2 hn, .inr ⟨n, rfl, hs⟩, rfl⟩

end Codec

/-! ## Fields -/

namespace Field

variable {ms : Members} {name : String} {c : Codec α}

@[simp] theorem takes_required {v : α} :
    (required name c).Takes levels ms v ↔ Holds ms name (c.Denotes levels) none v :=
  Iff.rfl

@[simp] theorem takes_defaulted {value v : α} :
    (defaulted name c value).Takes levels ms v ↔
      Holds ms name (c.Denotes levels) (some value) v :=
  Iff.rfl

@[simp] theorem takes_optionalLast {v : Option α} :
    (optionalLast name c).Takes levels ms v ↔ MayHold ms name (c.Denotes levels) v := by
  rw [MayHold, ← Codec.denotes_nullable]
  rfl

@[simp] theorem takes_nullable {v : Option α} :
    (nullable name c).Takes levels ms v ↔ MayHold ms name (c.Denotes levels) v := by
  rw [MayHold, ← Codec.denotes_nullable]
  rfl

@[simp] theorem takes_nullableFirst {v : Option α} :
    (nullableFirst name c).Takes levels ms v ↔ MayHold ms name (c.Denotes levels) v := by
  rw [MayHold, ← Codec.denotes_nullable]
  rfl

@[simp] theorem takes_duration {v : Option String} :
    (duration name).Takes levels ms v ↔ MayHold ms name IsDuration v := by
  rw [MayHold, ← Codec.denotes_duration]
  rfl

end Field

end VaultPki.Record

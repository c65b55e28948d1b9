import VaultPki.Proofs.Attempt
import VaultPki.Record.Layout

/-!
# Gathering members field by field

Reading the members of a record fills all slots at once. Here the slot of one field is taken apart
from the others: it is filled by the members of its name alone, and the others never see those.
-/

namespace VaultPki.Record

open VaultPki.Json (Document Problem Defect Break)

/-- Whether a member has a given name. -/
def isNamed (name : String) (m : Except Defect String × Document) : Bool :=
  match m.1 with
  | .ok n => n == name
  | .error _ => false

/-- The members of other names. -/
def besides (name : String) (ms : List (Except Defect String × Document)) :
    List (Except Defect String × Document) :=
  ms.filter fun m => !isNamed name m

/-- What members make of the slot of one field. -/
def fillSlot (levels : Nat) (f : Field) :
    List (Except Defect String × Document) → Option f.Value → Except Problem (Option f.Value)
  | [], slot => .ok slot
  | m :: ms, slot =>
    if isNamed f.name m then
      match slot with
      | some _ => .error .mismatch
      | none => f.codec.read levels m.2 >>= fun v => fillSlot levels f ms (some v)
    else fillSlot levels f ms slot

@[simp] theorem isNamed_ok (name n : String) (d : Document) :
    isNamed name (.ok n, d) = (n == name) := rfl

@[simp] theorem isNamed_error (name : String) (defect : Defect) (d : Document) :
    isNamed name (.error defect, d) = false := rfl

theorem besides_cons_of_named {name : String} {m : Except Defect String × Document}
    {ms : List (Except Defect String × Document)} (h : isNamed name m = true) :
    besides name (m :: ms) = besides name ms := by
  simp [besides, h]

theorem besides_cons_of_not_named {name : String} {m : Except Defect String × Document}
    {ms : List (Except Defect String × Document)} (h : isNamed name m = false) :
    besides name (m :: ms) = m :: besides name ms := by
  simp [besides, h]

theorem besides_eq_self {name : String} {ms : List (Except Defect String × Document)}
    (h : ∀ m ∈ ms, isNamed name m = false) : besides name ms = ms := by
  apply List.filter_eq_self.2
  intro m hm
  simp [h m hm]

theorem besides_of_one {name : String} {d : Document}
    {before after : List (Except Defect String × Document)}
    (hbefore : ∀ m ∈ before, isNamed name m = false)
    (hafter : ∀ m ∈ after, isNamed name m = false) :
    besides name (before ++ (.ok name, d) :: after) = before ++ after := by
  have hrest : besides name ((.ok name, d) :: after) = after := by
    rw [besides_cons_of_named (by simp), besides_eq_self hafter]
  have happend : besides name (before ++ (.ok name, d) :: after) =
      besides name before ++ besides name ((.ok name, d) :: after) := List.filter_append ..
  rw [happend, hrest, besides_eq_self hbefore]

variable {levels : Nat} {f : Field}

/-- A slot that is filled stays as it is, and no member of its name may follow. -/
theorem fillSlot_some_eq_ok_iff {ms : List (Except Defect String × Document)} {v : f.Value}
    {slot : Option f.Value} :
    fillSlot levels f ms (some v) = .ok slot ↔
      slot = some v ∧ ∀ m ∈ ms, isNamed f.name m = false := by
  induction ms with
  | nil =>
    rw [fillSlot, Except.ok.injEq, eq_comm]
    simp
  | cons m ms ih =>
    cases hm : isNamed f.name m with
    | true => simp [fillSlot, hm]
    | false => simp [fillSlot, hm, ih]

/-- An empty slot stays empty if no member has its name; else the one member of that name fills
it. -/
theorem fillSlot_none_eq_ok_iff {ms : List (Except Defect String × Document)}
    {slot : Option f.Value} :
    fillSlot levels f ms none = .ok slot ↔
      (slot = none ∧ ∀ m ∈ ms, isNamed f.name m = false) ∨
      ∃ before m after v, ms = before ++ m :: after ∧ isNamed f.name m = true ∧
        f.codec.read levels m.2 = .ok v ∧ slot = some v ∧
        (∀ x ∈ before, isNamed f.name x = false) ∧ ∀ x ∈ after, isNamed f.name x = false := by
  induction ms with
  | nil =>
    rw [fillSlot, Except.ok.injEq, eq_comm]
    simp
  | cons m ms ih =>
    cases hm : isNamed f.name m with
    | true =>
      simp only [fillSlot, hm, if_true, Attempt.bind_eq_ok_iff, fillSlot_some_eq_ok_iff]
      constructor
      · rintro ⟨v, hread, rfl, hrest⟩
        exact .inr ⟨[], m, ms, v, rfl, hm, hread, rfl, by simp, hrest⟩
      · rintro (⟨-, hnone⟩ | ⟨before, m', after, v, hms, hm', hread, rfl, hbefore, hafter⟩)
        · simp [hnone m (by simp)] at hm
        · cases before with
          | nil =>
            obtain ⟨rfl, rfl⟩ := List.cons.inj hms
            exact ⟨v, hread, rfl, hafter⟩
          | cons b before =>
            obtain ⟨rfl, -⟩ := List.cons.inj hms
            simp [hbefore m (by simp)] at hm
    | false =>
      simp only [fillSlot, hm, Bool.false_eq_true, if_false, ih]
      constructor
      · rintro (⟨rfl, hnone⟩ | ⟨before, m', after, v, rfl, hm', hread, rfl, hbefore, hafter⟩)
        · exact .inl ⟨rfl, by simpa [hm] using hnone⟩
        · exact .inr ⟨m :: before, m', after, v, rfl, hm', hread, rfl, by simpa [hm] using hbefore,
            hafter⟩
      · rintro (⟨rfl, hnone⟩ | ⟨before, m', after, v, hms, hm', hread, rfl, hbefore, hafter⟩)
        · exact .inl ⟨rfl, fun x hx => hnone x (by simp [hx])⟩
        · cases before with
          | nil =>
            obtain ⟨rfl, -⟩ := List.cons.inj hms
            simp [hm'] at hm
          | cons b before =>
            obtain ⟨rfl, rfl⟩ := List.cons.inj hms
            exact .inr ⟨before, m', after, v, rfl, hm', hread, rfl,
              fun x hx => hbefore x (by simp [hx]), hafter⟩

namespace Layout

variable {fs : List Field} {keeps : Bool} {stop : Option Break}

/-- Gathering for a field and others is filling its slot, and gathering for the others from the
members of other names. -/
theorem gather_cons_eq_ok_iff {ms : List (Except Defect String × Document)}
    {slot slot' : Option f.Value} {rest rest' : Slots fs} {kept kept' : List (String × Document)} :
    gather (f :: fs) keeps levels ms stop ⟨(slot, rest), kept⟩ = .ok ⟨(slot', rest'), kept'⟩ ↔
      fillSlot levels f ms slot = .ok slot' ∧
        gather fs keeps levels (besides f.name ms) stop ⟨rest, kept⟩ = .ok ⟨rest', kept'⟩ := by
  -- Each member fills the slot of `f`, a slot of `fs`, or none: so all of them are general.
  induction ms generalizing slot rest kept with
  | nil =>
    cases stop with
    | some b => simp [gather, fillSlot, besides]
    | none =>
      simp only [gather, fillSlot, besides, List.filter_nil, Except.ok.injEq]
      constructor
      · intro h
        cases h
        exact ⟨rfl, rfl⟩
      · rintro ⟨rfl, h⟩
        cases h
        rfl
  | cons m ms ih =>
    obtain ⟨name, d⟩ := m
    cases name with
    | error defect =>
      rw [besides_cons_of_not_named (isNamed_error _ _ _)]
      simp [gather]
    | ok n =>
      by_cases hn : f.name = n
      · subst hn
        rw [besides_cons_of_named (by simp)]
        cases slot with
        | some v => simp [gather, Slots.fill, fillSlot]
        | none =>
          cases hread : f.codec.read levels d with
          | error p =>
            simp [gather, Slots.fill, fillSlot, hread, Except.map, bind, Except.bind]
          | ok v =>
            simp only [gather, Slots.fill, if_true, hread, Except.map, fillSlot, isNamed_ok,
              beq_self_eq_true, bind, Except.bind]
            exact ih
      · have hm : isNamed f.name (.ok n, d) = false := by simp [Ne.symm hn]
        rw [besides_cons_of_not_named hm]
        simp only [gather, Slots.fill, if_neg hn, fillSlot, hm, Bool.false_eq_true, if_false]
        cases hfill : Slots.fill levels n d fs rest with
        | none =>
          simp only [Option.map_none]
          cases hother : other keeps levels d with
          | error p => simp
          | ok u => exact ih
        | some filled =>
          cases filled with
          | error p => simp [Except.map]
          | ok slots =>
            simp only [Option.map_some, Except.map]
            exact ih

end Layout

end VaultPki.Record

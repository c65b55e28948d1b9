import VaultPki.Proofs.Record.Flat

/-!
# Records that are changed by name

A record is read from a document in which the values of some members or items have been replaced.
If no codec of a field sees more of the replacement than a relation on its values admits, then both
records are refused for the same reason, or both are read and their rows are related. This holds for
any fields, so it can be used for a record within another.
-/

namespace VaultPki

/-! ## Attempts side by side -/

/-- Whether two attempts fail for the same reason or succeed with related values. -/
inductive Attempt.Alike {ε α β : Type} (R : α → β → Prop) : Except ε α → Except ε β → Prop
  | ok {a : α} {b : β} (h : R a b) : Alike R (.ok a) (.ok b)
  | error (e : ε) : Alike R (.error e) (.error e)

namespace Attempt.Alike

variable {ε α β γ δ : Type} {R : α → β → Prop} {S : γ → δ → Prop} {x : Except ε α}
  {y : Except ε β}

theorem mono {R' : α → β → Prop} (h : Alike R x y) (hR : ∀ a b, R a b → R' a b) :
    Alike R' x y := by
  cases h with
  | ok h => exact .ok (hR _ _ h)
  | error e => exact .error e

theorem bind {f : α → Except ε γ} {g : β → Except ε δ} (h : Alike R x y)
    (hf : ∀ a b, R a b → Alike S (f a) (g b)) : Alike S (x >>= f) (y >>= g) := by
  cases h with
  | ok h => exact hf _ _ h
  | error e => exact .error e

theorem map {f : α → γ} {g : β → δ} (h : Alike R x y) (hf : ∀ a b, R a b → S (f a) (g b)) :
    Alike S (x.map f) (y.map g) := by
  cases h with
  | ok h => exact .ok (hf _ _ h)
  | error e => exact .error e

theorem refl {R : α → α → Prop} (hR : ∀ a, R a a) (x : Except ε α) : Alike R x x := by
  cases x with
  | ok a => exact .ok (hR a)
  | error e => exact .error e

theorem trans {R : α → α → Prop} {x y z : Except ε α} (hR : ∀ a b c, R a b → R b c → R a c)
    (h : Alike R x y) (h' : Alike R y z) : Alike R x z := by
  cases h with
  | ok h =>
    cases h' with
    | ok h' => exact .ok (hR _ _ _ h h')
  | error e => exact h'

end Attempt.Alike

namespace Record

open VaultPki.Json (Document Problem Defect Break)
open Attempt (Alike)

variable {α : Type} {levels : Nat}

/-! ## Codecs -/

/-- Whether a change of documents shows in the values that a codec reads only as far as a relation
admits. -/
def Codec.Overlooks (c : Codec α) (change : Document → Document) (R : α → α → Prop) : Prop :=
  ∀ levels d, Alike R (c.read levels d) (c.read levels (change d))

/-- The same where a given number of levels is left. -/
def Codec.OverlooksAt (c : Codec α) (levels : Nat) (change : Document → Document)
    (R : α → α → Prop) : Prop :=
  ∀ d, Alike R (c.read levels d) (c.read levels (change d))

namespace Codec

variable {c : Codec α} {change : Document → Document} {R : α → α → Prop}

theorem overlooks_id (hR : ∀ a, R a a) : c.Overlooks id R :=
  fun levels d => .refl hR (c.read levels d)

theorem nullable_overlooksAt (hnull : ∀ d, change d = .null ↔ d = .null)
    (h : c.OverlooksAt levels change R) :
    c.nullable.OverlooksAt levels change (Option.Rel R) := by
  intro d
  by_cases hd : d = .null
  · rw [hd, (hnull .null).2 rfl]
    exact .ok .none
  · rw [nullable_read_of_ne_null hd, nullable_read_of_ne_null (mt (hnull d).1 hd)]
    exact (h d).map fun _ _ => .some

theorem nullable_overlooks (hnull : ∀ d, change d = .null ↔ d = .null)
    (h : c.Overlooks change R) : c.nullable.Overlooks change (Option.Rel R) :=
  fun levels => nullable_overlooksAt hnull (h levels)

end Codec

/-! ## Rows -/

/-- A relation on the values of each field. -/
def Row.Relation : List Field → Type
  | [] => Unit
  | f :: fs => (f.Value → f.Value → Prop) × Relation fs

/-- Whether the values of two rows are related, field by field. -/
def Row.Related : (fs : List Field) → Row.Relation fs → Row fs → Row fs → Prop
  | [], _, _, _ => True
  | _ :: fs, (R, Rs), (v, rest), (v', rest') => R v v' ∧ Related fs Rs rest rest'

/-- Whether the same fields have been met, with related values. -/
def Slots.Related : (fs : List Field) → Row.Relation fs → Slots fs → Slots fs → Prop
  | [], _, _, _ => True
  | _ :: fs, (R, Rs), (v, rest), (v', rest') => Option.Rel R v v' ∧ Related fs Rs rest rest'

/-- Whether a change by name shows in the values of each field only as far as the relation of the
field admits. -/
def Row.Overlooks (change : String → Document → Document) :
    (fs : List Field) → Row.Relation fs → Prop
  | [], _ => True
  | f :: fs, (R, Rs) =>
    (∀ v, R v v) ∧ f.codec.Overlooks (change f.name) R ∧ Overlooks change fs Rs

/-- The same where a given number of levels is left. -/
def Row.OverlooksAt (levels : Nat) (change : String → Document → Document) :
    (fs : List Field) → Row.Relation fs → Prop
  | [], _ => True
  | f :: fs, (R, Rs) =>
    (∀ v, R v v) ∧ f.codec.OverlooksAt levels (change f.name) R ∧ OverlooksAt levels change fs Rs

variable {change : String → Document → Document} {fs : List Field} {Rs : Row.Relation fs}

theorem Row.Overlooks.overlooksAt (h : Row.Overlooks change fs Rs) (levels : Nat) :
    Row.OverlooksAt levels change fs Rs := by
  induction fs with
  | nil => trivial
  | cons f fs ih =>
    obtain ⟨R, Rs⟩ := Rs
    obtain ⟨hR, hf, hrest⟩ := h
    exact ⟨hR, hf levels, ih hrest⟩

theorem Slots.related_empty (Rs : Row.Relation fs) :
    Related fs Rs (empty fs) (empty fs) := by
  induction fs with
  | nil => trivial
  | cons f fs ih =>
    obtain ⟨R, Rs⟩ := Rs
    exact ⟨.none, ih Rs⟩

theorem Slots.row_alike (h : Row.OverlooksAt levels change fs Rs) {slots slots' : Slots fs}
    (hslots : Related fs Rs slots slots') :
    Alike (Row.Related fs Rs) (row fs slots) (row fs slots') := by
  induction fs with
  | nil => exact .ok trivial
  | cons f fs ih =>
    obtain ⟨R, Rs⟩ := Rs
    obtain ⟨hR, -, hrest⟩ := h
    obtain ⟨slot, slots⟩ := slots
    obtain ⟨slot', slots'⟩ := slots'
    obtain ⟨hslot, hslots⟩ := hslots
    have ih := ih hrest hslots
    cases hslot with
    | some hv => exact ih.map fun _ _ h => ⟨hv, h⟩
    | none =>
      simp only [row, Option.none_or]
      cases f.absent with
      | none => exact .error _
      | some v => exact ih.map fun _ _ h => ⟨hR v, h⟩

theorem Slots.fill_alike (h : Row.OverlooksAt levels change fs Rs) {slots slots' : Slots fs}
    (hslots : Related fs Rs slots slots') (name : String) (d : Document) :
    Option.Rel (Alike (Related fs Rs)) (fill levels name d fs slots)
      (fill levels name (change name d) fs slots') := by
  induction fs with
  | nil => exact .none
  | cons f fs ih =>
    obtain ⟨R, Rs⟩ := Rs
    obtain ⟨-, hf, hrest⟩ := h
    obtain ⟨slot, slots⟩ := slots
    obtain ⟨slot', slots'⟩ := slots'
    obtain ⟨hslot, hslots⟩ := hslots
    simp only [fill]
    by_cases hname : f.name = name
    · subst hname
      rw [if_pos rfl, if_pos rfl]
      cases hslot with
      | some hv => exact .some (.error _)
      | none => exact .some ((hf d).map fun _ _ h => ⟨.some h, hslots⟩)
    · rw [if_neg hname, if_neg hname]
      have hfill := ih hrest hslots
      generalize fill levels name d fs slots = x at hfill ⊢
      generalize fill levels name (change name d) fs slots' = y at hfill ⊢
      cases hfill with
      | none => exact .none
      | some hfilled => exact .some (hfilled.map fun _ _ h => ⟨hslot, h⟩)

/-! ## Members and items -/

/-- The members of an object, changed by their names. -/
def mapMembers (change : String → Document → Document) (ms : Members) : Members :=
  ms.map fun m =>
    match m with
    | (.ok name, d) => (.ok name, change name d)
    | (.error defect, d) => (.error defect, d)

/-- The items of a list, changed by the names that stand for their places; behind these they are
changed like members with the empty name. -/
def mapItems (change : String → Document → Document) : List String → List Document → List Document
  | _, [] => []
  | [], d :: ds => change "" d :: mapItems change [] ds
  | name :: names, d :: ds => change name d :: mapItems change names ds

/-- The document of a record, changed by the names of its fields. -/
def mapRecord (change : String → Document → Document) (names : List String) :
    Document → Document
  | .object ms stop => .object (mapMembers change ms) stop
  | .list items stop => .list (mapItems change names items) stop
  | d => d

theorem mapRecord_eq_null_iff {names : List String} {d : Document} :
    mapRecord change names d = .null ↔ d = .null := by
  cases d <;> simp [mapRecord]

section Skim

variable (hskim : ∀ name d, (change name d).skim = d.skim)
include hskim

theorem skimMembers_mapMembers (ms : Members) (stop : Option Break) :
    Document.skimMembers (mapMembers change ms) stop = Document.skimMembers ms stop := by
  induction ms with
  | nil => rfl
  | cons m ms ih =>
    obtain ⟨name, d⟩ := m
    rw [mapMembers] at ih
    cases name with
    | error defect => rw [mapMembers, List.map_cons, Document.skimMembers, Document.skimMembers, ih]
    | ok name =>
      rw [mapMembers, List.map_cons, Document.skimMembers, Document.skimMembers, hskim, ih]

theorem skimItems_mapItems (names : List String) (items : List Document) (stop : Option Break) :
    Document.skimItems (mapItems change names items) stop = Document.skimItems items stop := by
  induction items generalizing names with
  | nil => cases names <;> rfl
  | cons d items ih =>
    cases names with
    | nil => rw [mapItems, Document.skimItems, Document.skimItems, hskim, ih]
    | cons name names => rw [mapItems, Document.skimItems, Document.skimItems, hskim, ih]

theorem skim_mapRecord (names : List String) (d : Document) :
    (mapRecord change names d).skim = d.skim := by
  cases d with
  | object ms stop => exact skimMembers_mapMembers hskim ms stop
  | list items stop => exact skimItems_mapItems hskim names items stop
  | _ => rfl

end Skim

/-! ## Records -/

namespace Layout

theorem gather_alike (hskim : ∀ name d, (change name d).skim = d.skim)
    (h : Row.OverlooksAt levels change fs Rs) (ms : Members) (stop : Option Break)
    {g g' : Gathered fs} (hg : Slots.Related fs Rs g.slots g'.slots) :
    Alike (fun g g' : Gathered fs => Slots.Related fs Rs g.slots g'.slots)
      (gather fs false levels ms stop g)
      (gather fs false levels (mapMembers change ms) stop g') := by
  -- Both readings go on from slots that are related, and each member leaves such slots.
  induction ms generalizing g g' with
  | nil =>
    cases stop with
    | none => exact .ok hg
    | some b => exact .error _
  | cons m ms ih =>
    obtain ⟨name, d⟩ := m
    cases name with
    | error defect => exact .error _
    | ok name =>
      have hfill := Slots.fill_alike h hg name d
      rw [mapMembers, List.map_cons]
      simp only [gather]
      generalize g.slots.fill levels name d fs = x at hfill ⊢
      generalize g'.slots.fill levels name (change name d) fs = y at hfill ⊢
      cases hfill with
      -- Of a member that is no field nothing is kept, but it is skimmed, and may be refused.
      | none =>
        have hother : other false levels (change name d) = other false levels d := by
          rw [other, other, hskim, if_neg Bool.false_ne_true, if_neg Bool.false_ne_true]
        simp only [hother]
        cases other false levels d with
        | error p => exact .error p
        | ok u => exact ih hg
      | some hfilled =>
        cases hfilled with
        | error p => exact .error p
        | ok hslots => exact ih hslots

theorem ofItems_alike (h : Row.OverlooksAt levels change fs Rs) (items : List Document)
    (stop : Option Break) :
    Alike (Row.Related fs Rs) (Row.ofItems levels fs items stop)
      (Row.ofItems levels fs (mapItems change (fs.map Field.name) items) stop) := by
  induction fs generalizing items with
  | nil =>
    cases items with
    | nil =>
      cases stop with
      | none => exact .ok trivial
      | some b => exact .error _
    | cons d items => exact .error _
  | cons f fs ih =>
    obtain ⟨R, Rs⟩ := Rs
    obtain ⟨hR, hf, hrest⟩ := h
    cases items with
    | nil =>
      cases stop with
      | some b => exact .error _
      -- The list ends early: this field and all behind it are left to their defaults.
      | none =>
        have hempty := ih hrest []
        simp only [mapItems] at hempty
        simp only [mapItems, Row.ofItems]
        cases f.short with
        | none => exact .error _
        | some v => exact hempty.map fun _ _ h => ⟨hR v, h⟩
    | cons d items =>
      simp only [List.map_cons, mapItems, Row.ofItems]
      have hread := hf d
      generalize f.codec.read levels d = x at hread ⊢
      generalize f.codec.read levels (change f.name d) = y at hread ⊢
      cases hread with
      | error p => exact .error p
      | ok hv => exact (ih hrest items).map fun _ _ h => ⟨hv, h⟩

variable {ρ : Type} {l : Layout ρ}

/-- Records are alike if what is gathered for them comes to related rows. -/
theorem readMembers_alike (hspread : l.spread = []) {Rs : Row.Relation l.own}
    {G : Gathered l.own → Gathered l.own → Prop} {ms ms' : Members} {stop : Option Break}
    (hgather : Alike G (gather l.own false levels ms stop ⟨.empty l.own, []⟩)
      (gather l.own false levels ms' stop ⟨.empty l.own, []⟩))
    (hrow : ∀ g g', G g g' → Alike (Row.Related l.own Rs) g.slots.row g'.slots.row) :
    Alike (fun r r' => Row.Related l.own Rs (l.row r).1 (l.row r').1)
      (l.readMembers levels ms stop) (l.readMembers levels ms' stop) := by
  obtain ⟨own, spread, row, ofRow, hofRow, hrowOfRow⟩ := l
  obtain rfl : spread = [] := hspread
  refine hgather.bind fun g g' hg => ?_
  refine (hrow g g' hg).bind fun values values' hvalues => ?_
  show Alike _ (spreadSlots levels [] g.kept () >>= _) (spreadSlots levels [] g'.kept () >>= _)
  rw [spreadSlots_nil, spreadSlots_nil]
  have hrelated : Row.Related own Rs (row (ofRow (values, ()))).1
      (row (ofRow (values', ()))).1 := by
    rw [hrowOfRow, hrowOfRow]
    exact hvalues
  exact .ok hrelated

/-- Records are alike if the rows of their lists of values are related. -/
theorem read_list_alike (hspread : l.spread = []) {Rs : Row.Relation l.own}
    {items items' : List Document} {stop : Option Break}
    (hrow : Alike (Row.Related l.own Rs) (Row.ofItems levels l.own items stop)
      (Row.ofItems levels l.own items' stop)) :
    Alike (fun r r' => Row.Related l.own Rs (l.row r).1 (l.row r').1)
      (l.read (levels + 1) (.list items stop)) (l.read (levels + 1) (.list items' stop)) := by
  obtain ⟨own, spread, row, ofRow, hofRow, hrowOfRow⟩ := l
  obtain rfl : spread = [] := hspread
  refine hrow.bind fun values values' hvalues => ?_
  have hrelated : Row.Related own Rs (row (ofRow (values, ()))).1
      (row (ofRow (values', ()))).1 := by
    rw [hrowOfRow, hrowOfRow]
    exact hvalues
  exact .ok hrelated

/-- A record that spreads no fragments shows a change by name only as far as its fields do. -/
theorem overlooksAt (hspread : l.spread = []) (hskim : ∀ name d, (change name d).skim = d.skim)
    {Rs : Row.Relation l.own} (h : Row.OverlooksAt levels change l.own Rs) :
    l.codec.OverlooksAt (levels + 1) (mapRecord change l.names)
      fun r r' => Row.Related l.own Rs (l.row r).1 (l.row r').1 := by
  intro d
  cases d with
  | object ms stop =>
    exact readMembers_alike hspread (gather_alike hskim h ms stop (Slots.related_empty Rs))
      fun g g' => Slots.row_alike h
  | list items stop =>
    rw [names_of_spread_eq_nil hspread]
    exact read_list_alike hspread (ofItems_alike h items stop)
  | _ => exact .error _

theorem overlooks (hspread : l.spread = []) (hskim : ∀ name d, (change name d).skim = d.skim)
    {Rs : Row.Relation l.own} (h : Row.Overlooks change l.own Rs) :
    l.codec.Overlooks (mapRecord change l.names)
      fun r r' => Row.Related l.own Rs (l.row r).1 (l.row r').1 := by
  intro levels
  cases levels with
  | zero =>
    obtain ⟨own, spread, row, ofRow, hofRow, hrow⟩ := l
    obtain rfl : spread = [] := hspread
    intro d
    cases d <;> exact .error _
  | succ levels => exact overlooksAt hspread hskim (h.overlooksAt levels)

end Layout

end Record

end VaultPki

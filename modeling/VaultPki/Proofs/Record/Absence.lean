import VaultPki.Proofs.Record.Masking
import VaultPki.Proofs.Record.Thorough

/-!
# Members that may as well be missing

A member can say that there is nothing: it is `null`, or has a value that does not count. A record
is read the same without such a member, up to how its values are told apart; and what its value
counts for says which of this was sent.
-/

namespace VaultPki.Record

open VaultPki.Json (Document Problem Defect Break)
open Attempt (Alike)

/-! ## Optional parts -/

/-- A part of a record that is there only if its value counts. The documents that stand for a value
are those that its codec reads, with whatever levels are left. -/
structure OptionalPart where
  name : String
  Value : Type
  codec : Codec Value
  Stands : Document → Value → Prop
  counts : Value → Bool
  denotes_eq : ∀ levels, codec.Denotes (levels + 1) = Stands
  not_stands_null : ∀ v, ¬Stands .null v
  isThorough : codec.IsThorough

namespace OptionalPart

variable {part : OptionalPart} {d : Document} {ms : Members} {levels : Nat}

/-- Whether a document says that the part is absent. -/
def IsAbsent (part : OptionalPart) (d : Document) : Prop :=
  d = .null ∨ ∃ v, part.Stands d v ∧ part.counts v = false

/-- Whether members say that a part is absent, or that it has a value. -/
def IsSent (part : OptionalPart) (ms : Members) : Option part.Value → Prop
  | none => named part.name ms = [] ∨ ∃ d, named part.name ms = [d] ∧ part.IsAbsent d
  | some v => ∃ d, named part.name ms = [d] ∧ part.Stands d v ∧ part.counts v = true

theorem denotes_nullable_eq (levels : Nat) :
    part.codec.nullable.Denotes (levels + 1) = OrNull part.Stands := by
  rw [Codec.denotes_nullable, part.denotes_eq]

theorem orNull_unique {o o' : Option part.Value} (h : OrNull part.Stands d o)
    (h' : OrNull part.Stands d o') : o = o' := by
  rw [← denotes_nullable_eq 0] at h h'
  exact Except.ok.inj (h.symm.trans h')

theorem stands_iff {v : part.Value} : part.Stands d v ↔ OrNull part.Stands d (some v) := by
  constructor
  · intro h
    refine .inr ⟨?_, v, h, rfl⟩
    rintro rfl
    exact part.not_stands_null v h
  · rintro (⟨-, hv⟩ | ⟨-, a, ha, hv⟩)
    · cases hv
    · rwa [Option.some.inj hv]

theorem isAbsent_iff :
    part.IsAbsent d ↔ ∃ o, OrNull part.Stands d o ∧ o.filter part.counts = none := by
  constructor
  · rintro (rfl | ⟨v, hv, hcounts⟩)
    · exact ⟨none, .inl ⟨rfl, rfl⟩, rfl⟩
    · exact ⟨some v, stands_iff.1 hv, by simp [hcounts]⟩
  · rintro ⟨o, ⟨rfl, -⟩ | ⟨-, v, hv, rfl⟩, hfilter⟩
    · exact .inl rfl
    · exact .inr ⟨v, hv, by simpa using hfilter⟩

theorem IsAbsent.skim (h : part.IsAbsent d) : d.skim = none := by
  rcases h with rfl | ⟨v, hv, -⟩
  · rfl
  · rw [← part.denotes_eq 0] at hv
    exact part.isThorough 1 d v hv

instance (d : Document) : Decidable (part.IsAbsent d) :=
  match hread : part.codec.nullable.read 1 d with
  | .error p => .isFalse fun h => by
    obtain ⟨o, ho, -⟩ := isAbsent_iff.1 h
    rw [← denotes_nullable_eq 0] at ho
    cases hread.symm.trans ho
  | .ok o => decidable_of_iff (o.filter part.counts = none) <| by
    have ho : OrNull part.Stands d o := by
      rw [← denotes_nullable_eq 0]
      exact hread
    rw [isAbsent_iff]
    constructor
    · exact fun hfilter => ⟨o, ho, hfilter⟩
    · rintro ⟨o', ho', hfilter⟩
      rwa [orNull_unique ho ho']

/-- What is read of a part, as far as it counts, is what was sent. -/
theorem isSent_iff {o x : Option part.Value} (h : MayHold ms part.name part.Stands o) :
    part.IsSent ms x ↔ o.filter part.counts = x := by
  rcases h with ⟨hnil, ho⟩ | ⟨d, hone, hread⟩
  · obtain rfl := Option.some.inj ho
    cases x with
    | none => exact iff_of_true (.inl hnil) rfl
    | some v => simp [IsSent, hnil]
  · cases x with
    | none =>
      have habsent : part.IsSent ms none ↔ part.IsAbsent d := by simp [IsSent, hone]
      rw [habsent, isAbsent_iff]
      constructor
      · rintro ⟨o', ho', hfilter⟩
        rwa [orNull_unique hread ho']
      · exact fun hfilter => ⟨o, hread, hfilter⟩
    | some v =>
      have hpresent : part.IsSent ms (some v) ↔ part.Stands d v ∧ part.counts v = true := by
        simp [IsSent, hone]
      rw [hpresent, stands_iff, Option.filter_eq_some_iff]
      refine and_congr_left fun _ => ⟨fun hv => orNull_unique hread hv, ?_⟩
      rintro rfl
      exact hread

/-! ## Leaving members out -/

/-- Members without the one that says that a part is absent, if there is one of its name. -/
def leftOutOf (part : OptionalPart) (ms : Members) : Members :=
  match named part.name ms with
  | [d] => if part.IsAbsent d then besides part.name ms else ms
  | _ => ms

/-- Values of a list behind a `null`, if there are any. -/
def behindNull : List Document → List Document
  | [] => []
  | d :: items => .null :: d :: items

/-- The values of a list, which are named in order, without the one that says that a part is absent.
If others stand behind it, `null` takes its place. -/
def leftOutOfItems (part : OptionalPart) : List String → List Document → List Document
  | name :: names, d :: items =>
    if name = part.name ∧ part.IsAbsent d then behindNull items
    else d :: part.leftOutOfItems names items
  | _, items => items

/-- The document of a record without the member that says that a part is absent. -/
def leaveOut (part : OptionalPart) (names : List String) : Document → Document
  | .object ms stop => .object (part.leftOutOf ms) stop
  | .list items stop => .list (part.leftOutOfItems names items) stop
  | d => d

variable {names : List String}

theorem leaveOut_eq_null_iff : part.leaveOut names d = .null ↔ d = .null := by
  cases d <;> simp [leaveOut]

/-- Either all members stay, or one is left out that says that the part is absent. -/
theorem leftOutOf_eq (part : OptionalPart) (ms : Members) :
    part.leftOutOf ms = ms ∨
      ∃ before d after, ms = before ++ (.ok part.name, d) :: after ∧ part.IsAbsent d ∧
        (∀ m ∈ before, isNamed part.name m = false) ∧ (∀ m ∈ after, isNamed part.name m = false) ∧
        part.leftOutOf ms = before ++ after := by
  rw [leftOutOf]
  split
  · next d hone =>
    split
    · next habsent =>
      obtain ⟨before, ⟨name, d'⟩, after, rfl, hnamed, rfl, hbefore, hafter⟩ :=
        named_eq_singleton_iff.1 hone
      obtain rfl : name = .ok part.name := by
        cases name with
        | error defect => cases hnamed
        | ok name => rw [beq_iff_eq.1 hnamed]
      exact .inr ⟨before, d', after, rfl, habsent, hbefore, hafter, besides_of_one hbefore hafter⟩
    · exact .inl rfl
  · exact .inl rfl

theorem skimItems_leftOutOfItems (names : List String) (items : List Document)
    (stop : Option Break) :
    Document.skimItems (part.leftOutOfItems names items) stop = Document.skimItems items stop := by
  induction items generalizing names with
  | nil => cases names <;> rfl
  | cons d items ih =>
    cases names with
    | nil => rfl
    | cons name names =>
      rw [leftOutOfItems, Document.skimItems]
      split
      · next h =>
        rw [h.2.skim]
        cases items <;> rfl
      · rw [Document.skimItems, ih]

theorem skim_leaveOut (names : List String) (d : Document) :
    (part.leaveOut names d).skim = d.skim := by
  have hmembers {before after : Members} {name : String} {d : Document} (hd : d.skim = none)
      (stop : Option Break) :
      Document.skimMembers (before ++ after) stop =
        Document.skimMembers (before ++ (.ok name, d) :: after) stop := by
    induction before with
    | nil => rw [List.nil_append, List.nil_append, Document.skimMembers, hd]
    | cons m before ih =>
      rw [List.cons_append, List.cons_append, Document.skimMembers, Document.skimMembers, ih]
  cases d with
  | object ms stop =>
    rcases part.leftOutOf_eq ms with hall | ⟨before, d, after, rfl, habsent, -, -, hout⟩
    · rw [leaveOut, hall]
    · rw [leaveOut, hout]
      exact hmembers habsent.skim stop
  | list items stop => exact skimItems_leftOutOfItems names items stop
  | _ => rfl

/-- The document of a record without the members that say that one of several parts is absent. -/
def leaveOutAll (parts : List OptionalPart) (names : List String) (d : Document) : Document :=
  parts.foldr (fun part => part.leaveOut names) d

theorem leaveOutAll_eq_null_iff {parts : List OptionalPart} :
    leaveOutAll parts names d = .null ↔ d = .null := by
  induction parts with
  | nil => exact Iff.rfl
  | cons part parts ih => exact leaveOut_eq_null_iff.trans ih

theorem skim_leaveOutAll (parts : List OptionalPart) (names : List String) (d : Document) :
    (leaveOutAll parts names d).skim = d.skim := by
  induction parts with
  | nil => rfl
  | cons part parts ih => exact (skim_leaveOut names _).trans ih

/-- What is overlooked for each of several parts is overlooked for all of them. -/
theorem overlooksAt_leaveOutAll {α : Type} {c : Codec α} {R : α → α → Prop}
    {parts : List OptionalPart} (hrefl : ∀ a, R a a) (htrans : ∀ a b c, R a b → R b c → R a c)
    (h : ∀ part ∈ parts, c.OverlooksAt levels (part.leaveOut names) R) :
    c.OverlooksAt levels (leaveOutAll parts names) R := by
  intro d
  induction parts with
  | nil => exact .refl hrefl _
  | cons part parts ih =>
    obtain ⟨hpart, hparts⟩ := List.forall_mem_cons.1 h
    exact .trans htrans (ih hparts) (hpart _)

/-- Whether two values of a part count for the same. -/
def CountAlike (part : OptionalPart) (o o' : Option part.Value) : Prop :=
  o.filter part.counts = o'.filter part.counts

/-- A value that may be `null` counts for what a missing one counts for where the part is absent. -/
theorem IsAbsent.exists_read (h : part.IsAbsent d) (levels : Nat) :
    ∃ o, part.codec.nullable.read (levels + 1) d = .ok o ∧ part.CountAlike o none := by
  obtain ⟨o, ho, hfilter⟩ := isAbsent_iff.1 h
  rw [← denotes_nullable_eq levels] at ho
  exact ⟨o, ho, hfilter⟩

end OptionalPart

/-! ## Slots beside a name -/

variable {fs : List Field} {Rs : Row.Relation fs} {levels : Nat} {name : String}

/-- Whether slots are the same but for those of a name, which come to related values. -/
def Slots.Beside (name : String) : (fs : List Field) → Row.Relation fs → Slots fs → Slots fs → Prop
  | [], _, _, _ => True
  | f :: fs, (R, Rs), (slot, rest), (slot', rest') =>
    (if f.name = name then
      ∃ v v', slot.or f.absent = some v ∧ slot'.or f.absent = some v' ∧ R v v'
    else slot = slot') ∧ Beside name fs Rs rest rest'

/-- Whether the slots of a name are empty. -/
def Slots.IsFree (name : String) : (fs : List Field) → Slots fs → Prop
  | [], _ => True
  | f :: fs, (slot, rest) => (f.name = name → slot = none) ∧ IsFree name fs rest

/-- Whether the field of a name takes a document as it takes it that there is none. -/
def Row.TakesAsMissing (levels : Nat) (name : String) (d : Document) :
    (fs : List Field) → Row.Relation fs → Prop
  | [], _ => True
  | f :: fs, (R, Rs) =>
    Equivalence R ∧
      (f.name = name → ∃ v v', f.codec.read levels d = .ok v ∧ f.absent = some v' ∧
        f.short = some v' ∧ R v v') ∧
      TakesAsMissing levels name d fs Rs

theorem Row.TakesAsMissing.related_refl {d : Document}
    (h : Row.TakesAsMissing levels name d fs Rs) (row : Row fs) : Row.Related fs Rs row row := by
  induction fs with
  | nil => trivial
  | cons f fs ih =>
    obtain ⟨R, Rs⟩ := Rs
    obtain ⟨hR, -, hrest⟩ := h
    obtain ⟨v, rest⟩ := row
    exact ⟨hR.refl v, ih hrest rest⟩

namespace Slots

theorem isFree_empty (name : String) (fs : List Field) : IsFree name fs (empty fs) := by
  induction fs with
  | nil => trivial
  | cons f fs ih => exact ⟨fun _ => rfl, ih⟩

theorem row_beside {d : Document} (h : Row.TakesAsMissing levels name d fs Rs)
    {slots slots' : Slots fs} (hslots : Beside name fs Rs slots slots') :
    Alike (Row.Related fs Rs) (row fs slots) (row fs slots') := by
  induction fs with
  | nil => exact .ok trivial
  | cons f fs ih =>
    obtain ⟨R, Rs⟩ := Rs
    obtain ⟨hR, -, hrest⟩ := h
    obtain ⟨slot, slots⟩ := slots
    obtain ⟨slot', slots'⟩ := slots'
    obtain ⟨hslot, hslots⟩ := hslots
    have ih := ih hrest hslots
    rw [row, row]
    split at hslot
    · obtain ⟨v, v', hv, hv', hR⟩ := hslot
      simp only [hv, hv']
      exact ih.map fun _ _ h => ⟨hR, h⟩
    · subst hslot
      cases slot.or f.absent with
      | none => exact .error _
      | some v => exact ih.map fun _ _ h => ⟨hR.refl v, h⟩

theorem beside_refl {d : Document} (h : Row.TakesAsMissing levels name d fs Rs)
    {slots : Slots fs} (hfree : IsFree name fs slots) : Beside name fs Rs slots slots := by
  induction fs with
  | nil => trivial
  | cons f fs ih =>
    obtain ⟨R, Rs⟩ := Rs
    obtain ⟨hR, hf, hrest⟩ := h
    obtain ⟨slot, slots⟩ := slots
    obtain ⟨hslot, hslots⟩ := hfree
    refine ⟨?_, ih hrest hslots⟩
    split
    · next hname =>
      obtain ⟨v, v', -, habsent, -⟩ := hf hname
      rw [hslot hname]
      exact ⟨v', v', habsent, habsent, hR.refl v'⟩
    · rfl

/-- A member of another name does the same to both. -/
theorem fill_beside {slots slots' : Slots fs} (hslots : Beside name fs Rs slots slots')
    {n : String} (hn : n ≠ name) (d : Document) :
    Option.Rel (Alike (Beside name fs Rs)) (fill levels n d fs slots)
      (fill levels n d fs slots') := by
  induction fs with
  | nil => exact .none
  | cons f fs ih =>
    obtain ⟨R, Rs⟩ := Rs
    obtain ⟨slot, slots⟩ := slots
    obtain ⟨slot', slots'⟩ := slots'
    obtain ⟨hslot, hslots⟩ := hslots
    simp only [fill]
    by_cases hf : f.name = n
    · have hname : f.name ≠ name := hf ▸ hn
      rw [if_neg hname] at hslot
      subst hslot
      rw [if_pos hf, if_pos hf]
      cases slot with
      | some v => exact .some (.error _)
      | none =>
        refine .some (.map (.refl (fun _ => rfl) _) fun v v' hv => ?_)
        exact ⟨by rw [if_neg hname, hv], hslots⟩
    · rw [if_neg hf, if_neg hf]
      have hfill := ih hslots
      generalize fill levels n d fs slots = x at hfill ⊢
      generalize fill levels n d fs slots' = y at hfill ⊢
      cases hfill with
      | none => exact .none
      | some hfilled => exact .some (hfilled.map fun _ _ h => ⟨hslot, h⟩)

theorem isFree_of_fill {slots filled : Slots fs} (hfree : IsFree name fs slots) {n : String}
    (hn : n ≠ name) {d : Document} (h : fill levels n d fs slots = some (.ok filled)) :
    IsFree name fs filled := by
  induction fs with
  | nil => trivial
  | cons f fs ih =>
    obtain ⟨slot, slots⟩ := slots
    obtain ⟨hslot, hslots⟩ := hfree
    simp only [fill] at h
    by_cases hf : f.name = n
    · rw [if_pos hf] at h
      cases slot with
      | some v => cases h
      | none =>
        obtain ⟨v, -, rfl⟩ := Attempt.map_eq_ok_iff.1 (Option.some.inj h)
        exact ⟨fun hname => absurd (hf.symm.trans hname) hn, hslots⟩
    · rw [if_neg hf] at h
      obtain ⟨result, hfill, hmap⟩ := Option.map_eq_some_iff.1 h
      obtain ⟨rest, rfl, rfl⟩ := Attempt.map_eq_ok_iff.1 hmap
      exact ⟨hslot, ih hslots hfill⟩

/-- A member that is taken as missing fills nothing but the slot of its name. -/
theorem fill_of_takesAsMissing {d : Document} (h : Row.TakesAsMissing levels name d fs Rs)
    {slots : Slots fs} (hfree : IsFree name fs slots) :
    fill levels name d fs slots = none ∨
      ∃ filled, fill levels name d fs slots = some (.ok filled) ∧
        Beside name fs Rs filled slots := by
  induction fs with
  | nil => exact .inl rfl
  | cons f fs ih =>
    obtain ⟨R, Rs⟩ := Rs
    obtain ⟨hR, hf, hrest⟩ := h
    obtain ⟨slot, slots⟩ := slots
    obtain ⟨hslot, hslots⟩ := hfree
    simp only [fill]
    by_cases hname : f.name = name
    · obtain ⟨v, v', hread, habsent, -, hv⟩ := hf hname
      obtain rfl := hslot hname
      refine .inr ⟨(some v, slots), ?_, ?_, beside_refl hrest hslots⟩
      · simp only [if_pos hname, hread]
        rfl
      · rw [if_pos hname]
        exact ⟨v, v', rfl, habsent, hv⟩
    · rw [if_neg hname]
      rcases ih hrest hslots with hfill | ⟨filled, hfill, hbeside⟩
      · exact .inl (by rw [hfill]; rfl)
      · refine .inr ⟨(slot, filled), by rw [hfill]; rfl, ?_, hbeside⟩
        rw [if_neg hname]

end Slots

/-! ## Reading without a member -/

namespace Layout

/-- Members of other names are gathered alike beside a name. -/
theorem gather_beside {ms : Members} (hms : ∀ m ∈ ms, isNamed name m = false)
    (stop : Option Break) {g g' : Gathered fs} (hg : Slots.Beside name fs Rs g.slots g'.slots) :
    Alike (fun g g' : Gathered fs => Slots.Beside name fs Rs g.slots g'.slots)
      (gather fs false levels ms stop g) (gather fs false levels ms stop g') := by
  induction ms generalizing g g' with
  | nil =>
    cases stop with
    | none => exact .ok hg
    | some b => exact .error _
  | cons m ms ih =>
    obtain ⟨hm, hrest⟩ := List.forall_mem_cons.1 hms
    obtain ⟨n, d⟩ := m
    cases n with
    | error defect => exact .error _
    | ok n =>
      have hn : n ≠ name := by simpa using hm
      have hfill : Option.Rel (Alike (Slots.Beside name fs Rs)) (g.slots.fill levels n d fs)
          (g'.slots.fill levels n d fs) := Slots.fill_beside hg hn d
      simp only [gather]
      generalize g.slots.fill levels n d fs = x at hfill ⊢
      generalize g'.slots.fill levels n d fs = y at hfill ⊢
      cases hfill with
      | none =>
        cases other false levels d with
        | error p => exact .error p
        | ok u => exact ih hrest hg
      | some hfilled =>
        cases hfilled with
        | error p => exact .error p
        | ok hslots => exact ih hrest hslots

/-- A member that is taken as missing may be left out. -/
theorem gather_leave_out {d : Document} (h : Row.TakesAsMissing levels name d fs Rs)
    (hskim : d.skim = none) {before after : Members}
    (hbefore : ∀ m ∈ before, isNamed name m = false)
    (hafter : ∀ m ∈ after, isNamed name m = false) (stop : Option Break) {g : Gathered fs}
    (hfree : Slots.IsFree name fs g.slots) :
    Alike (fun g g' : Gathered fs => Slots.Beside name fs Rs g.slots g'.slots)
      (gather fs false levels (before ++ (.ok name, d) :: after) stop g)
      (gather fs false levels (before ++ after) stop g) := by
  -- In front of the member both readings are the same, and the slot of its name stays free.
  induction before generalizing g with
  | nil =>
    rw [List.nil_append, List.nil_append, gather]
    rcases Slots.fill_of_takesAsMissing h hfree with hfill | ⟨filled, hfill, hbeside⟩
    · have hother : other false levels d = .ok () := by
        rw [other, hskim]
        rfl
      simp only [hfill, hother]
      exact gather_beside hafter stop (Slots.beside_refl h hfree)
    · simp only [hfill]
      exact gather_beside hafter stop hbeside
  | cons m before ih =>
    obtain ⟨hm, hrest⟩ := List.forall_mem_cons.1 hbefore
    obtain ⟨n, d'⟩ := m
    rw [List.cons_append, List.cons_append]
    cases n with
    | error defect => exact .error _
    | ok n =>
      have hn : n ≠ name := by simpa using hm
      simp only [gather]
      cases hfill : g.slots.fill levels n d' fs with
      | none =>
        cases other false levels d' with
        | error p => exact .error p
        | ok u => exact ih hrest hfree
      | some filled =>
        cases filled with
        | error p => exact .error p
        | ok slots => exact ih hrest (Slots.isFree_of_fill hfree hn hfill)

/-- A value that is taken as missing may be left out, or be `null`. -/
theorem ofItems_leave_out {part : OptionalPart}
    (h : ∀ d, part.IsAbsent d → Row.TakesAsMissing levels part.name d fs Rs)
    (items : List Document) (stop : Option Break) :
    Alike (Row.Related fs Rs) (Row.ofItems levels fs items stop)
      (Row.ofItems levels fs (part.leftOutOfItems (fs.map Field.name) items) stop) := by
  induction fs generalizing items with
  | nil => exact .refl (fun _ => trivial) _
  | cons f fs ih =>
    have hnull := h .null (.inl rfl)
    cases items with
    | nil => exact .refl (fun row => hnull.related_refl row) _
    | cons d items =>
      obtain ⟨R, Rs⟩ := Rs
      obtain ⟨hR, hread, hrest⟩ := hnull
      have hsame : Alike (Row.Related fs Rs) (Row.ofItems levels fs items stop)
          (Row.ofItems levels fs items stop) := .refl (fun row => hrest.related_refl row) _
      rw [List.map_cons, OptionalPart.leftOutOfItems]
      split
      · next hpart =>
        obtain ⟨hname, habsent⟩ := hpart
        obtain ⟨v, v', hv, hv', hshort, hmissing⟩ := (h d habsent).2.1 hname
        cases items with
        | nil =>
          simp only [OptionalPart.behindNull, Row.ofItems, hv]
          cases stop with
          | some b => cases fs <;> exact .error _
          | none =>
            simp only [Row.ofItems, hshort]
            exact hsame.map fun _ _ h => ⟨hmissing, h⟩
        | cons d' items =>
          obtain ⟨v₀, v₀', hv₀, hv₀', -, hmissing₀⟩ := hread hname
          obtain rfl := Option.some.inj (hv'.symm.trans hv₀')
          simp only [OptionalPart.behindNull, Row.ofItems, hv, hv₀]
          exact hsame.map fun _ _ h => ⟨hR.trans hmissing (hR.symm hmissing₀), h⟩
      · rw [Row.ofItems, Row.ofItems]
        cases f.codec.read levels d with
        | error p => exact .error p
        | ok v => exact (ih (fun d hd => (h d hd).2.2) items).map fun _ _ h => ⟨hR.refl v, h⟩

variable {ρ : Type} {l : Layout ρ} {part : OptionalPart}

/-- A record is read the same without a member that says that a part is absent. -/
theorem overlooksAt_leaveOut (hspread : l.spread = []) {Rs : Row.Relation l.own}
    (h : ∀ d, part.IsAbsent d → Row.TakesAsMissing levels part.name d l.own Rs) :
    l.codec.OverlooksAt (levels + 1) (part.leaveOut l.names)
      fun r r' => Row.Related l.own Rs (l.row r).1 (l.row r').1 := by
  have hnull := h .null (.inl rfl)
  have hsame (x : Except Problem ρ) :
      Alike (fun r r' => Row.Related l.own Rs (l.row r).1 (l.row r').1) x x := by
    apply Alike.refl
    exact fun r => hnull.related_refl (l.row r).1
  intro d
  cases d with
  | object ms stop =>
    rcases part.leftOutOf_eq ms with hall | ⟨before, d, after, rfl, habsent, hbefore, hafter, hout⟩
    · rw [OptionalPart.leaveOut, hall]
      exact hsame _
    · rw [OptionalPart.leaveOut, hout]
      exact readMembers_alike hspread
        (gather_leave_out (h d habsent) habsent.skim hbefore hafter stop (Slots.isFree_empty _ _))
        fun g g' => Slots.row_beside hnull
  | list items stop =>
    rw [names_of_spread_eq_nil hspread]
    exact read_list_alike hspread (ofItems_leave_out h items stop)
  | _ => exact hsame _

end Layout

end VaultPki.Record

import VaultPki.Proofs.Json.Document
import VaultPki.Proofs.Record.Reading

/-!
# What the members of an object say about a record

Reading an object asks each field for the members of its name: there must be none, and the field
has a value for that, or exactly one, which its codec reads. Members of other names and the order
of all of them are no matter. A list of values is read like the object in which they have the names
of the fields in order.
-/

namespace VaultPki.Record

open VaultPki.Json (Document Problem Defect Break)

/-- The members of an object: names, which may say nothing as text, and documents. -/
abbrev Members :=
  List (Except Defect String × Document)

/-- The documents under a name. -/
def named (name : String) (ms : Members) : List Document :=
  (ms.filter (isNamed name)).map Prod.snd

variable {α : Type} {levels : Nat}

/-- Whether the members of a name stand for a value: there are none, and the value is the one for
that, or there is one, which `R` relates to the value. -/
def Holds (ms : Members) (name : String) (R : Document → α → Prop) (absent : Option α) (v : α) :
    Prop :=
  (named name ms = [] ∧ absent = some v) ∨ ∃ d, named name ms = [d] ∧ R d v

/-- Whether a codec reads a value from a document. -/
def Codec.Denotes (c : Codec α) (levels : Nat) (d : Document) (a : α) : Prop :=
  c.read levels d = .ok a

/-- Whether members give a field a value. -/
def Field.Takes (f : Field) (levels : Nat) (ms : Members) (v : f.Value) : Prop :=
  Holds ms f.name (f.codec.Denotes levels) f.absent v

/-- Whether members give each field the value in a row. -/
def Row.Takes (levels : Nat) (ms : Members) : (fs : List Field) → Row fs → Prop
  | [], _ => True
  | f :: fs, (v, rest) => f.Takes levels ms v ∧ Takes levels ms fs rest

/-! ## Members by their names -/

theorem named_eq_nil_iff {name : String} {ms : Members} :
    named name ms = [] ↔ ∀ m ∈ ms, isNamed name m = false := by
  rw [named, List.map_eq_nil_iff, List.filter_eq_nil_iff]
  simp

theorem named_eq_singleton_iff {name : String} {ms : Members} {d : Document} :
    named name ms = [d] ↔
      ∃ before m after, ms = before ++ m :: after ∧ isNamed name m = true ∧ m.2 = d ∧
        (∀ x ∈ before, isNamed name x = false) ∧ ∀ x ∈ after, isNamed name x = false := by
  rw [named, List.map_eq_singleton_iff]
  constructor
  · rintro ⟨m, hfilter, hm⟩
    obtain ⟨before, after, rfl, hbefore, hnamed, hafter⟩ := List.filter_eq_cons_iff.1 hfilter
    refine ⟨before, m, after, rfl, hnamed, hm, ?_, ?_⟩
    · simpa using hbefore
    · simpa using List.filter_eq_nil_iff.1 hafter
  · rintro ⟨before, m, after, rfl, hnamed, hm, hbefore, hafter⟩
    refine ⟨m, List.filter_eq_cons_iff.2 ⟨before, after, rfl, ?_, hnamed, ?_⟩, hm⟩
    · simpa using hbefore
    · exact List.filter_eq_nil_iff.2 (by simpa using hafter)

/-- Leaving out the members of one name changes nothing for another. -/
theorem named_besides {name other : String} (h : name ≠ other) (ms : Members) :
    named name (besides other ms) = named name ms := by
  rw [named, named, besides, List.filter_filter]
  congr 1
  apply List.filter_congr
  rintro ⟨n, d⟩ -
  cases n with
  | error defect => rfl
  | ok n =>
    by_cases hn : n = name
    · simp [hn, h]
    · simp [hn]

theorem named_cons_self (name : String) (d : Document) (ms : Members) :
    named name ((.ok name, d) :: ms) = d :: named name ms := by
  simp [named]

theorem named_cons_of_ne {name other : String} (h : other ≠ name) (d : Document) (ms : Members) :
    named name ((.ok other, d) :: ms) = named name ms := by
  simp [named, h]

theorem mem_of_mem_named {name : String} {d : Document} {ms : Members} (h : d ∈ named name ms) :
    (.ok name, d) ∈ ms := by
  obtain ⟨⟨n, d'⟩, hm, rfl⟩ := List.mem_map.1 h
  obtain ⟨hmem, hnamed⟩ := List.mem_filter.1 hm
  cases n with
  | error defect => cases hnamed
  | ok n =>
    rw [isNamed_ok, beq_iff_eq] at hnamed
    rwa [← hnamed]

theorem mem_named_of_mem {name : String} {d : Document} {ms : Members} (h : (.ok name, d) ∈ ms) :
    d ∈ named name ms :=
  List.mem_map.2 ⟨(.ok name, d), List.mem_filter.2 ⟨h, by simp⟩, rfl⟩

theorem Holds.congr {ms ms' : Members} {name : String} {R : Document → α → Prop}
    {absent : Option α} {v : α} (h : (named name ms').Perm (named name ms)) :
    Holds ms' name R absent v ↔ Holds ms name R absent v := by
  have hnil : named name ms' = [] ↔ named name ms = [] := by
    rw [← List.perm_nil, ← List.perm_nil]
    exact h.congr_left []
  have hone (d : Document) : named name ms' = [d] ↔ named name ms = [d] := by
    rw [← List.perm_singleton, ← List.perm_singleton]
    exact h.congr_left [d]
  simp only [Holds, hnil, hone]

theorem Holds.null_not_mem {ms : Members} {name : String} {R : Document → α → Prop}
    {absent : Option α} {v : α} (h : Holds ms name R absent v) (hnull : ¬ R .null v) :
    .null ∉ named name ms := by
  rcases h with ⟨hnil, -⟩ | ⟨d, hone, hd⟩
  · rw [hnil]
    exact List.not_mem_nil
  · rw [hone, List.mem_singleton]
    rintro rfl
    exact hnull hd

/-- What a row takes depends on the members of the names of its fields only, and not on their
order. -/
theorem Row.takes_congr {ms ms' : Members} {fs : List Field} {row : Row fs}
    (h : ∀ f ∈ fs, (named f.name ms').Perm (named f.name ms)) :
    Row.Takes levels ms' fs row ↔ Row.Takes levels ms fs row := by
  induction fs with
  | nil => exact Iff.rfl
  | cons f fs ih =>
    obtain ⟨v, rest⟩ := row
    have hfield : f.Takes levels ms' v ↔ f.Takes levels ms v := Holds.congr (h f List.mem_cons_self)
    have hrest := @ih rest fun g hg => h g (List.mem_cons_of_mem f hg)
    rw [Row.Takes, Row.Takes, hfield, hrest]

/-! ## Slots -/

variable {f : Field} {fs : List Field}

/-- A field takes a value exactly if its members fill the slot that stands for it. -/
theorem Field.takes_iff {ms : Members} {v : f.Value} :
    f.Takes levels ms v ↔
      ∃ slot, fillSlot levels f ms none = .ok slot ∧ slot.or f.absent = some v := by
  constructor
  · rintro (⟨hnone, habsent⟩ | ⟨d, hone, hread⟩)
    · exact ⟨none, fillSlot_none_eq_ok_iff.2 (.inl ⟨rfl, named_eq_nil_iff.1 hnone⟩), habsent⟩
    · obtain ⟨before, m, after, hms, hnamed, rfl, hbefore, hafter⟩ := named_eq_singleton_iff.1 hone
      exact ⟨some v, fillSlot_none_eq_ok_iff.2
        (.inr ⟨before, m, after, v, hms, hnamed, hread, rfl, hbefore, hafter⟩), rfl⟩
  · rintro ⟨slot, hfill, hslot⟩
    rcases fillSlot_none_eq_ok_iff.1 hfill with
      ⟨rfl, hnone⟩ | ⟨before, m, after, w, hms, hnamed, hread, rfl, hbefore, hafter⟩
    · exact .inl ⟨named_eq_nil_iff.2 hnone, hslot⟩
    · have hw : w = v := Option.some.inj hslot
      subst hw
      exact .inr ⟨m.2, named_eq_singleton_iff.2
        ⟨before, m, after, hms, hnamed, rfl, hbefore, hafter⟩, hread⟩

/-! ## Objects -/

/-- Whether nothing about members is broken: their names are texts, and skimming the documents finds
no defect. -/
def Members.AreWhole (ms : Members) : Prop :=
  ∀ m ∈ ms, (∃ name, m.1 = .ok name) ∧ m.2.skim = none

theorem Members.AreWhole.besides {ms : Members} (h : ms.AreWhole) (name : String) :
    Members.AreWhole (besides name ms) :=
  fun m hm => h m (List.mem_filter.1 hm).1

namespace Layout

private theorem gather_nil {ms : Members} (h : ms.AreWhole) (kept : List (String × Document)) :
    ∃ kept', gather [] false levels ms none ⟨(), kept⟩ = .ok ⟨(), kept'⟩ := by
  induction ms generalizing kept with
  | nil => exact ⟨kept, rfl⟩
  | cons m ms ih =>
    obtain ⟨⟨name, hname⟩, hskim⟩ := h m List.mem_cons_self
    obtain ⟨n, d⟩ := m
    obtain rfl : n = .ok name := hname
    have hother : other false levels d = .ok () := by
      have hskim : d.skim = none := hskim
      rw [other, hskim]
      rfl
    rw [gather, Slots.fill]
    simp only [hother]
    exact ih (fun x hx => h x (List.mem_cons_of_mem _ hx)) _

private theorem named_besides_perm {f : Field} (hname : f.name ∉ fs.map Field.name) (ms : Members) :
    ∀ g ∈ fs, (named g.name (besides f.name ms)).Perm (named g.name ms) := by
  intro g hg
  apply List.Perm.of_eq
  apply named_besides
  intro heq
  exact hname (heq ▸ List.mem_map_of_mem hg)

/-- A row that was gathered takes the members. -/
theorem takes_of_gather {ms : Members} {stop : Option Break} {kept : List (String × Document)}
    {g : Gathered fs} {row : Row fs} (hnames : (fs.map Field.name).Nodup)
    (hgather : gather fs false levels ms stop ⟨.empty fs, kept⟩ = .ok g)
    (hrow : g.slots.row = .ok row) : Row.Takes levels ms fs row := by
  -- The members are general: the other fields gather from those beside the first one's.
  induction fs generalizing ms kept with
  | nil => trivial
  | cons f fs ih =>
    obtain ⟨hname, hnames⟩ := List.nodup_cons.1 hnames
    obtain ⟨v, rest⟩ := row
    obtain ⟨⟨slot, slots⟩, kept'⟩ := g
    obtain ⟨hfill, hrest⟩ := gather_cons_eq_ok_iff.1 hgather
    obtain ⟨hslot, hslots⟩ := Slots.row_cons_eq_ok_iff.1 hrow
    refine ⟨Field.takes_iff.2 ⟨slot, hfill, hslot⟩, ?_⟩
    rw [← Row.takes_congr (named_besides_perm hname ms)]
    exact ih hnames hrest hslots

/-- Gathering whole members fills the slots of a row exactly if the row takes them. -/
theorem gather_row_iff {ms : Members} (h : ms.AreWhole) (hnames : (fs.map Field.name).Nodup)
    {row : Row fs} :
    (∃ g, gather fs false levels ms none ⟨.empty fs, []⟩ = .ok g ∧ g.slots.row = .ok row) ↔
      Row.Takes levels ms fs row := by
  refine ⟨fun ⟨g, hgather, hrow⟩ => takes_of_gather hnames hgather hrow, fun htakes => ?_⟩
  induction fs generalizing ms with
  | nil =>
    obtain ⟨kept, hgather⟩ := @gather_nil levels ms h []
    exact ⟨_, hgather, rfl⟩
  | cons f fs ih =>
    obtain ⟨hname, hnames⟩ := List.nodup_cons.1 hnames
    obtain ⟨v, rest⟩ := row
    obtain ⟨hfield, hothers⟩ := htakes
    rw [← Row.takes_congr (named_besides_perm hname ms)] at hothers
    obtain ⟨slot, hfill, hslot⟩ := Field.takes_iff.1 hfield
    obtain ⟨⟨slots, kept⟩, hrest, hslots⟩ := ih (h.besides f.name) hnames hothers
    exact ⟨⟨(slot, slots), kept⟩, gather_cons_eq_ok_iff.2 ⟨hfill, hrest⟩,
      Slots.row_cons_eq_ok_iff.2 ⟨hslot, hslots⟩⟩

end Layout

/-! ## Lists of values -/

/-- The members of an object whose names are those of a record's fields, in order. -/
def inOrder (names : List String) (items : List Document) : Members :=
  List.zipWith (fun name d => (.ok name, d)) names items

theorem inOrder_nil (names : List String) : inOrder names [] = [] :=
  List.zipWith_nil_right

theorem named_inOrder_eq_nil {name : String} {names : List String} (h : name ∉ names)
    (items : List Document) : named name (inOrder names items) = [] := by
  induction names generalizing items with
  | nil => rfl
  | cons other names ih =>
    cases items with
    | nil => rfl
    | cons d items =>
      obtain ⟨hne, hrest⟩ := not_or.1 (mt List.mem_cons.2 h)
      rw [inOrder, List.zipWith_cons_cons, named_cons_of_ne (Ne.symm hne)]
      exact ih hrest items

theorem Field.takes_nil_iff {v : f.Value} : f.Takes levels [] v ↔ f.absent = some v := by
  simp [Field.Takes, Holds, named]

/-- Where a field's name comes first, and no second time, the first value is its. -/
theorem Field.takes_inOrder_iff {names : List String} (hname : f.name ∉ names) {d : Document}
    {items : List Document} {v : f.Value} :
    f.Takes levels (inOrder (f.name :: names) (d :: items)) v ↔ f.codec.read levels d = .ok v := by
  have hnamed : named f.name (inOrder (f.name :: names) (d :: items)) = [d] := by
    rw [inOrder, List.zipWith_cons_cons, named_cons_self]
    exact congrArg (d :: ·) (named_inOrder_eq_nil hname items)
  rw [Field.Takes, Holds, hnamed]
  simp [Codec.Denotes]

namespace Row

/-- A list of values is read as the object is in which they have the names of the fields in order,
unless there are more values than fields. -/
theorem ofItems_eq_ok_iff (hshort : ∀ f ∈ fs, f.short = f.absent)
    (hnames : (fs.map Field.name).Nodup) {items : List Document} {row : Row fs} :
    ofItems levels fs items none = .ok row ↔
      items.length ≤ fs.length ∧ Takes levels (inOrder (fs.map Field.name) items) fs row := by
  induction fs generalizing items with
  | nil =>
    cases items with
    | nil => exact iff_of_true rfl ⟨Nat.le_refl 0, trivial⟩
    | cons d items => exact iff_of_false nofun fun h => Nat.not_succ_le_zero _ h.1
  | cons f fs ih =>
    obtain ⟨v, rest⟩ := row
    obtain ⟨hname, hnames⟩ := List.nodup_cons.1 hnames
    have ih := @ih (fun g hg => hshort g (List.mem_cons_of_mem f hg)) hnames
    cases items with
    | nil =>
      have hrest := @ih [] rest
      rw [inOrder_nil] at hrest ⊢
      rw [ofItems, hshort f List.mem_cons_self, Takes, Field.takes_nil_iff]
      cases f.absent with
      | none => simp
      | some w =>
        refine map_cons_eq_ok_iff.trans ?_
        rw [hrest, Option.some.injEq]
        simp
    | cons d items =>
      have hothers : ∀ g ∈ fs,
          (named g.name (inOrder (f.name :: fs.map Field.name) (d :: items))).Perm
            (named g.name (inOrder (fs.map Field.name) items)) := by
        intro g hg
        apply List.Perm.of_eq
        apply named_cons_of_ne
        intro heq
        exact hname (heq ▸ List.mem_map_of_mem hg)
      rw [ofItems_cons_eq_ok_iff, ih, List.map_cons, Takes, Field.takes_inOrder_iff hname,
        takes_congr hothers, List.length_cons, List.length_cons, Nat.succ_le_succ_iff]
      exact and_left_comm

end Row

end VaultPki.Record

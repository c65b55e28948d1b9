import VaultPki.Proofs.Record.Faithful

/-!
# What a record is written as

A record has an entry for every field: a name, and what is written under it, if anything is. Where
the names are different, the members that are written tell the entries of a name. Writing a record
whose fields leave out what is absent yields no `null`.
-/

namespace VaultPki

/-- Whether there is no `null` in a value, and the members of every object have different names. -/
inductive Json.IsTidy : Json → Prop
  | bool (b : Bool) : IsTidy (.bool b)
  | integer (n : Int) : IsTidy (.integer n)
  | text (s : String) : IsTidy (.text s)
  | list {items : List Json} (h : ∀ j ∈ items, IsTidy j) : IsTidy (.list items)
  | object {ms : List (String × Json)} (hnames : (ms.map Prod.fst).Nodup)
    (h : ∀ m ∈ ms, IsTidy m.2) : IsTidy (.object ms)

namespace Record

/-- The members that entries are written as. -/
def present (es : List (String × Option Json)) : List (String × Json) :=
  es.filterMap fun e => e.2.map (Prod.mk e.1)

theorem present_append (es es' : List (String × Option Json)) :
    present (es ++ es') = present es ++ present es' :=
  List.filterMap_append

theorem mem_of_mem_present {es : List (String × Option Json)} {m : String × Json}
    (h : m ∈ present es) : (m.1, some m.2) ∈ es := by
  obtain ⟨⟨name, value⟩, he, hm⟩ := List.mem_filterMap.1 h
  obtain ⟨j, hj, rfl⟩ := Option.map_eq_some_iff.1 hm
  obtain rfl : value = some j := hj
  exact he

/-- Under the name of an entry stands what is written under it, and nothing if nothing is. -/
theorem lookup_present {es : List (String × Option Json)} (hnames : (es.map Prod.fst).Nodup)
    {e : String × Option Json} (he : e ∈ es) : (present es).lookup e.1 = e.2 := by
  induction es with
  | nil => cases he
  | cons x es ih =>
    obtain ⟨hfirst, hrest⟩ := List.nodup_cons.1 hnames
    obtain ⟨name, value⟩ := x
    rcases List.mem_cons.1 he with rfl | hmem
    · cases value with
      | none =>
        rw [List.lookup_eq_none_iff]
        intro m hm
        rw [bne_iff_ne]
        rintro rfl
        exact hfirst (List.mem_map.2 ⟨_, mem_of_mem_present hm, rfl⟩)
      | some j =>
        show List.lookup name ((name, j) :: present es) = some j
        rw [List.lookup_cons, beq_self_eq_true]
    · have hne : e.1 ≠ name := fun h => hfirst (List.mem_map.2 ⟨e, hmem, h⟩)
      have ih := ih hrest hmem
      cases value with
      | none => exact ih
      | some j =>
        show List.lookup e.1 ((name, j) :: present es) = e.2
        rw [List.lookup_cons, beq_eq_false_iff_ne.2 hne]
        exact ih

theorem filter_present (p : String → Bool) (es : List (String × Option Json)) :
    (present es).filter (fun m => p m.1) = present (es.filter fun e => p e.1) := by
  induction es with
  | nil => rfl
  | cons e es ih =>
    obtain ⟨name, value⟩ := e
    cases value with
    | none =>
      show (present es).filter _ = _
      rw [ih, List.filter_cons]
      split <;> rfl
    | some j =>
      show List.filter _ ((name, j) :: present es) = _
      rw [List.filter_cons, List.filter_cons, ih]
      split <;> rfl

/-! ## Entries of records -/

@[simp] theorem Codec.write_text : text.write = Json.text := rfl

@[simp] theorem Codec.write_flag : flag.write = Json.bool := rfl

@[simp] theorem Codec.write_uint32 : uint32.write = fun n => Json.integer n.toNat := rfl

@[simp] theorem Codec.write_int32 : int32.write = fun n => Json.integer n.toInt := rfl

@[simp] theorem Codec.write_texts : text.list.write = Json.texts := rfl

section

variable {α : Type} {c : Codec α}

/-- The entry of a field with a value. -/
def Field.entry (f : Field) (v : f.Value) : String × Option Json :=
  (f.name, if f.omits v then none else some (f.codec.write v))

@[simp] theorem Field.entry_required (name : String) (v : α) :
    (required name c).entry v = (name, some (c.write v)) := rfl

@[simp] theorem Field.entry_optional (name : String) (v : Option α) :
    (optional name c).entry v = (name, v.map c.write) := by
  cases v <;> rfl

@[simp] theorem Field.entry_optionalLast (name : String) (v : Option α) :
    (optionalLast name c).entry v = (name, v.map c.write) := by
  cases v <;> rfl

@[simp] theorem Field.entry_duration (name : String) (v : Option String) :
    (duration name).entry v = (name, v.map .text) := by
  cases v <;> rfl

/-- The entries of a row, in the order of the fields. -/
def Row.entries : (fs : List Field) → Row fs → List (String × Option Json)
  | [], _ => []
  | f :: fs, (v, rest) => f.entry v :: entries fs rest

theorem Row.members_eq_present (fs : List Field) (row : Row fs) :
    Row.members fs row = present (Row.entries fs row) := by
  induction fs with
  | nil => rfl
  | cons f fs ih =>
    obtain ⟨v, rest⟩ := row
    rw [Row.members, ih, Row.entries, Field.entry]
    split <;> rfl

@[simp] theorem Row.entries_append {fs gs : List Field} (row : Row fs) (row' : Row gs) :
    Row.entries (fs ++ gs) (row.append row') = Row.entries fs row ++ Row.entries gs row' := by
  induction fs with
  | nil => rfl
  | cons f fs ih =>
    obtain ⟨v, rest⟩ := row
    show f.entry v :: Row.entries (fs ++ gs) (rest.append row') = _
    rw [ih]
    rfl

theorem Row.map_fst_entries (fs : List Field) (row : Row fs) :
    (Row.entries fs row).map Prod.fst = fs.map Field.name := by
  induction fs with
  | nil => rfl
  | cons f fs ih =>
    obtain ⟨v, rest⟩ := row
    rw [Row.entries, List.map_cons, ih]
    rfl

end

namespace Layout

variable {ρ : Type} {l : Layout ρ}

/-- The entries of a record: its own, and those of the fragments that it spreads. -/
def entries (l : Layout ρ) (r : ρ) : List (String × Option Json) :=
  Row.entries l.own (l.row r).1 ++ Row.entries l.spread (l.row r).2

theorem write_eq_present (l : Layout ρ) (r : ρ) : l.write r = .object (present (l.entries r)) := by
  rw [write, members, entries, present_append, Row.members_eq_present, Row.members_eq_present]

theorem map_fst_entries (l : Layout ρ) (r : ρ) : (l.entries r).map Prod.fst = l.names := by
  rw [entries, List.map_append, Row.map_fst_entries, Row.map_fst_entries, names, List.map_append]

end Layout

/-! ## Tidy records -/

section

variable {α : Type} {c : Codec α}

/-- Whether what a codec writes is tidy. -/
def Codec.IsTidy (c : Codec α) : Prop :=
  ∀ a, (c.write a).IsTidy

/-- Whether what a field writes is tidy, unless it leaves the value out. -/
def Field.IsTidy (f : Field) : Prop :=
  ∀ v, f.omits v = false → (f.codec.write v).IsTidy

@[simp] theorem Codec.text_isTidy : text.IsTidy := .text

@[simp] theorem Codec.flag_isTidy : flag.IsTidy := .bool

@[simp] theorem Codec.uint32_isTidy : uint32.IsTidy := fun _ => .integer _

@[simp] theorem Codec.int32_isTidy : int32.IsTidy := fun _ => .integer _

@[simp] theorem Codec.list_isTidy (hc : c.IsTidy) : c.list.IsTidy := by
  intro as
  apply Json.IsTidy.list
  intro j hj
  obtain ⟨a, -, rfl⟩ := List.mem_map.1 hj
  exact hc a

@[simp] theorem Field.required_isTidy (name : String) (hc : c.IsTidy) :
    (required name c).IsTidy :=
  fun v _ => hc v

@[simp] theorem Field.optional_isTidy (name : String) (hc : c.IsTidy) :
    (optional name c).IsTidy := by
  intro v hv
  cases v with
  | none => cases hv
  | some a => exact hc a

@[simp] theorem Field.optionalLast_isTidy (name : String) (hc : c.IsTidy) :
    (optionalLast name c).IsTidy :=
  Field.optional_isTidy name hc

@[simp] theorem Field.duration_isTidy (name : String) : (duration name).IsTidy := by
  intro v hv
  cases v with
  | none => cases hv
  | some s => exact .text s

end

theorem Layout.codec_isTidy {ρ : Type} {l : Layout ρ} {depth : Nat} (h : l.IsFaithful depth)
    (hfields : ∀ f ∈ l.own ++ l.spread, f.IsTidy) : l.codec.IsTidy := by
  intro r
  refine .object (h.nodup_members r) fun m hm => ?_
  obtain ⟨f, hf, v, hv, rfl⟩ := exists_field_of_mem_members hm
  exact hfields f hf v hv

/-! ## Different records -/

/-- What reads back what it writes never writes two values alike. -/
theorem Codec.IsFaithful.write_inj {α : Type} {c : Codec α} {depth : Nat} (h : c.IsFaithful depth)
    {a a' : α} : c.write a = c.write a' ↔ a = a' := by
  constructor
  · intro hwrite
    have hread := h.read_write depth (Nat.le_refl depth) a
    rw [hwrite, h.read_write depth (Nat.le_refl depth) a'] at hread
    exact (Except.ok.inj hread).symm
  · rintro rfl
    rfl

end Record

end VaultPki

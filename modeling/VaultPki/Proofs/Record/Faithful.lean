import VaultPki.Proofs.Json.Document
import VaultPki.Proofs.Json.RoundTrip
import VaultPki.Proofs.Record.Reading

/-!
# Codecs that read what they write

A codec is faithful if it reads back every value from the document that it writes for it, and
writes no numbers but those that survive as text. Fields have two more duties: a value that they
leave out is the one that a missing member stands for, and where a value can be left out no other is
written as `null`. A record whose fields are faithful and have different names is read back as a
whole, from the document as well as from its bytes.
-/

namespace VaultPki.Record

open VaultPki.Json (Document)

namespace Codec

variable {α : Type} {c : Codec α} {depth : Nat}

/-- Whether a codec reads what it writes, when `depth` lists and objects may stand inside one
another. -/
structure IsFaithful (c : Codec α) (depth : Nat) : Prop where
  read_write : ∀ levels, depth ≤ levels → ∀ a, c.read levels (.ofJson (c.write a)) = .ok a
  hasIntegers : ∀ a, (c.write a).HasIntegers
  isReadable : ∀ levels, depth ≤ levels → ∀ a, (Document.ofJson (c.write a)).IsReadable levels

theorem IsFaithful.mono {depth' : Nat} (h : c.IsFaithful depth) (hle : depth ≤ depth') :
    c.IsFaithful depth' where
  read_write levels hlevels := h.read_write levels (Nat.le_trans hle hlevels)
  hasIntegers := h.hasIntegers
  isReadable levels hlevels := h.isReadable levels (Nat.le_trans hle hlevels)

theorem text_isFaithful : text.IsFaithful 0 where
  read_write _ _ _ := rfl
  hasIntegers := .text
  isReadable _ _ s := ⟨.text s, rfl⟩

theorem flag_isFaithful : flag.IsFaithful 0 where
  read_write _ _ _ := rfl
  hasIntegers := .bool
  isReadable _ _ b := ⟨.bool b, rfl⟩

theorem integer_isFaithful {narrow : Int → Option α} {widen : α → Int}
    (h : ∀ a, narrow (widen a) = some a) (hrange : ∀ a, Json.Reader.IsInRange (widen a)) :
    (integer narrow widen).IsFaithful 0 where
  read_write _ _ a := by simp only [integer, Document.ofJson, h a]
  hasIntegers a := .integer (hrange a)
  isReadable _ _ a := ⟨.integer (widen a), rfl⟩

theorem uint32_isFaithful : uint32.IsFaithful 0 := by
  apply integer_isFaithful
  · exact fun a => narrowUInt32_eq_some_iff.2 rfl
  · intro a
    have hlt : a.toNat < UInt32.size := a.toNat_lt_size
    have hsize : UInt32.size ≤ UInt64.size := by decide
    have hmin : Int64.minValue.toInt ≤ 0 := by decide
    constructor
    · omega
    · omega

theorem int32_isFaithful : int32.IsFaithful 0 := by
  have hmin (a : Int32) : Int32.minValue.toInt ≤ a.toInt := Int32.minValue_le_toInt a
  have hmax (a : Int32) : a.toInt ≤ Int32.maxValue.toInt := Int32.toInt_le a
  apply integer_isFaithful
  · exact fun a => narrowInt32_eq_some_iff.2 rfl
  · intro a
    have hwider : Int64.minValue.toInt ≤ Int32.minValue.toInt := by decide
    have hsize : Int32.maxValue.toInt < UInt64.size := by decide
    exact ⟨hwider.trans (hmin a), (hmax a).trans_lt hsize⟩

theorem int64_isFaithful : int64.IsFaithful 0 := by
  have hmin (a : Int64) : Int64.minValue.toInt ≤ a.toInt := Int64.minValue_le_toInt a
  have hmax (a : Int64) : a.toInt ≤ Int64.maxValue.toInt := Int64.toInt_le a
  apply integer_isFaithful
  · exact fun a => narrowInt64_eq_some_iff.2 rfl
  · intro a
    have hsize : Int64.maxValue.toInt < UInt64.size := by decide
    exact ⟨hmin a, (hmax a).trans_lt hsize⟩

private theorem readItems_written (hc : c.IsFaithful depth) {levels : Nat} (hlevels : depth ≤ levels)
    (as : List α) : readItems c levels (Document.ofItems (as.map c.write)) none = .ok as := by
  induction as with
  | nil => rfl
  | cons a as ih =>
    rw [List.map_cons, Document.ofItems, readItems, hc.read_write levels hlevels a, ih]
    rfl

theorem exists_eq_succ {levels : Nat} (h : depth + 1 ≤ levels) :
    ∃ n, levels = n + 1 ∧ depth ≤ n :=
  ⟨levels - 1, by omega, by omega⟩

theorem list_isFaithful (hc : c.IsFaithful depth) : c.list.IsFaithful (depth + 1) where
  read_write levels hle as := by
    obtain ⟨levels, rfl, hlevels⟩ := exists_eq_succ hle
    exact readItems_written hc hlevels as
  hasIntegers as := by
    apply Json.HasIntegers.list
    intro j hj
    obtain ⟨a, -, rfl⟩ := List.mem_map.1 hj
    exact hc.hasIntegers a
  isReadable levels hle as := by
    obtain ⟨levels, rfl, hlevels⟩ := exists_eq_succ hle
    apply Document.isReadable_list
    intro j hj
    obtain ⟨a, -, rfl⟩ := List.mem_map.1 hj
    exact hc.isReadable levels hlevels a

theorem ofJson_eq_null_iff {j : Json} : Document.ofJson j = .null ↔ j = .null := by
  cases j <;> simp [Document.ofJson]

/-- Whether a codec is faithful and never writes `null`, so that no value of it is taken for an
absent one. -/
structure IsSolid (c : Codec α) (depth : Nat) : Prop extends c.IsFaithful depth where
  write_ne_null : ∀ a, c.write a ≠ .null

@[simp] theorem text_isSolid : text.IsSolid depth where
  toIsFaithful := text_isFaithful.mono (Nat.zero_le depth)
  write_ne_null _ := nofun

@[simp] theorem flag_isSolid : flag.IsSolid depth where
  toIsFaithful := flag_isFaithful.mono (Nat.zero_le depth)
  write_ne_null _ := nofun

@[simp] theorem uint32_isSolid : uint32.IsSolid depth where
  toIsFaithful := uint32_isFaithful.mono (Nat.zero_le depth)
  write_ne_null _ := nofun

@[simp] theorem int32_isSolid : int32.IsSolid depth where
  toIsFaithful := int32_isFaithful.mono (Nat.zero_le depth)
  write_ne_null _ := nofun

@[simp] theorem int64_isSolid : int64.IsSolid depth where
  toIsFaithful := int64_isFaithful.mono (Nat.zero_le depth)
  write_ne_null _ := nofun

@[simp] theorem texts_isSolid : (list text).IsSolid (depth + 1) where
  toIsFaithful := list_isFaithful (text_isFaithful.mono (Nat.zero_le depth))
  write_ne_null _ := nofun

theorem nullable_isFaithful (hc : c.IsSolid depth) : c.nullable.IsFaithful depth where
  read_write levels hlevels a := by
    cases a with
    | none => rfl
    | some a =>
      show c.nullable.read levels (Document.ofJson (c.write a)) = _
      rw [nullable_read_of_ne_null (mt ofJson_eq_null_iff.1 (hc.write_ne_null a)),
        hc.read_write levels hlevels a]
      rfl
  hasIntegers a := by
    cases a with
    | none => exact .null
    | some a => exact hc.hasIntegers a
  isReadable levels hlevels a := by
    cases a with
    | none => exact ⟨.null, rfl⟩
    | some a => exact hc.isReadable levels hlevels a

theorem duration_isFaithful : duration.IsFaithful 0 where
  read_write _ _ a := by cases a <;> rfl
  hasIntegers a := by
    cases a with
    | none => exact .null
    | some s => exact .text s
  isReadable _ _ a := by
    cases a with
    | none => exact ⟨.null, rfl⟩
    | some s => exact ⟨.text s, rfl⟩

/-- The bytes of a value are decoded as its document is read. -/
theorem decode_compact {j : Json} (h : j.HasIntegers) :
    c.decode (Text.Utf8.encode j.compact) = c.read 127 (.ofJson j) := by
  rw [decode, Json.Text.ofBytes_encode_compact h]
  cases c.read 127 (.ofJson j) <;> simp only [if_true]

/-- A value is read back from the bytes that it is written as. -/
theorem IsFaithful.decode_write (h : c.IsFaithful depth) (hdepth : depth ≤ 127) (a : α) :
    c.decode (Text.Utf8.encode (c.write a).compact) = .ok a := by
  rw [decode_compact (h.hasIntegers a), h.read_write 127 hdepth a]

end Codec

namespace Field

variable {α : Type} {c : Codec α} {depth : Nat}

/-- Whether a field reads the values that it writes and stands for those that it leaves out, which
are then the only ones that it could have written as `null`. -/
structure IsFaithful (f : Field) (depth : Nat) : Prop where
  codec_isFaithful : f.codec.IsFaithful depth
  absent_of_omits : ∀ v, f.omits v = true → f.absent = some v
  write_ne_null : ∀ v v', f.omits v = false → f.omits v' = true → f.codec.write v ≠ .null

theorem IsFaithful.mono {f : Field} {depth' : Nat} (h : f.IsFaithful depth)
    (hle : depth ≤ depth') : f.IsFaithful depth' where
  codec_isFaithful := h.codec_isFaithful.mono hle
  absent_of_omits := h.absent_of_omits
  write_ne_null := h.write_ne_null

@[simp] theorem required_isFaithful (name : String) (hc : c.IsSolid depth) :
    (required name c).IsFaithful depth where
  codec_isFaithful := hc.toIsFaithful
  absent_of_omits _ h := nomatch h
  write_ne_null _ _ _ h := nomatch h

@[simp] theorem defaulted_isFaithful (name : String) (hc : c.IsSolid depth) (value : α) :
    (defaulted name c value).IsFaithful depth where
  codec_isFaithful := hc.toIsFaithful
  absent_of_omits _ h := nomatch h
  write_ne_null _ _ _ h := nomatch h

@[simp] theorem optional_isFaithful (name : String) (hc : c.IsSolid depth) :
    (optional name c).IsFaithful depth where
  codec_isFaithful := Codec.nullable_isFaithful hc
  absent_of_omits v h := by
    cases v with
    | none => rfl
    | some a => cases h
  write_ne_null v _ h _ := by
    cases v with
    | none => cases h
    | some a => exact hc.write_ne_null a

@[simp] theorem optionalLast_isFaithful (name : String) (hc : c.IsSolid depth) :
    (optionalLast name c).IsFaithful depth where
  codec_isFaithful := Codec.nullable_isFaithful hc
  absent_of_omits := (optional_isFaithful name hc).absent_of_omits
  write_ne_null := (optional_isFaithful name hc).write_ne_null

@[simp] theorem duration_isFaithful (name : String) : (duration name).IsFaithful depth where
  codec_isFaithful := Codec.duration_isFaithful.mono (Nat.zero_le _)
  absent_of_omits v h := by
    cases v with
    | none => rfl
    | some a => cases h
  write_ne_null v _ h _ := by
    cases v with
    | none => cases h
    | some s => exact nofun

@[simp] theorem nullable_isFaithful (name : String) (hc : c.IsSolid depth) :
    (nullable name c).IsFaithful depth where
  codec_isFaithful := Codec.nullable_isFaithful hc
  absent_of_omits _ h := nomatch h
  write_ne_null _ _ _ h := nomatch h

@[simp] theorem nullableFirst_isFaithful (name : String) (hc : c.IsSolid depth) :
    (nullableFirst name c).IsFaithful depth where
  codec_isFaithful := Codec.nullable_isFaithful hc
  absent_of_omits _ h := nomatch h
  write_ne_null _ _ _ h := nomatch h

end Field

/-! ## Rows -/

/-- The slots that the members of a row fill. -/
def Slots.ofRow : (fs : List Field) → Row fs → Slots fs
  | [], _ => ()
  | f :: fs, (v, rest) => (if f.omits v then none else some v, ofRow fs rest)

variable {depth levels : Nat}

theorem Slots.row_ofRow {fs : List Field} (hfs : ∀ f ∈ fs, f.IsFaithful depth) (row : Row fs) :
    Slots.row fs (.ofRow fs row) = .ok row := by
  induction fs with
  | nil => rfl
  | cons f fs ih =>
    obtain ⟨v, rest⟩ := row
    have hslot : (if f.omits v then none else some v).or f.absent = some v := by
      split
      · next homits => exact (hfs f (by simp)).absent_of_omits v homits
      · rfl
    rw [Slots.ofRow, Slots.row, hslot, ih fun g hg => hfs g (by simp [hg])]
    rfl

/-- A member of a row is the value of a field of its name that does not leave it out. -/
theorem Row.exists_field_of_mem_members {fs : List Field} {row : Row fs} {x : String × Json}
    (h : x ∈ Row.members fs row) :
    ∃ f ∈ fs, ∃ v, f.omits v = false ∧ x = (f.name, f.codec.write v) := by
  induction fs with
  | nil => cases h
  | cons f fs ih =>
    obtain ⟨v, rest⟩ := row
    have hrest : x ∈ Row.members fs rest →
        ∃ g ∈ f :: fs, ∃ v, g.omits v = false ∧ x = (g.name, g.codec.write v) := by
      intro hx
      obtain ⟨g, hg, hvalue⟩ := ih hx
      exact ⟨g, List.mem_cons_of_mem f hg, hvalue⟩
    rw [Row.members] at h
    split at h
    · exact hrest h
    · next homits =>
      rcases List.mem_cons.1 h with rfl | h
      · exact ⟨f, List.mem_cons_self, v, Bool.eq_false_iff.2 homits, rfl⟩
      · exact hrest h

theorem Row.names_members_sublist (fs : List Field) (row : Row fs) :
    ((Row.members fs row).map Prod.fst).Sublist (fs.map Field.name) := by
  induction fs with
  | nil => exact .slnil
  | cons f fs ih =>
    obtain ⟨v, rest⟩ := row
    rw [Row.members]
    split
    · exact (ih rest).cons _
    · exact (ih rest).cons_cons _

private theorem not_named_of_not_mem {js : List (String × Json)} {name : String}
    (h : name ∉ js.map Prod.fst) :
    ∀ m ∈ Document.ofMembers js, isNamed name m = false := by
  intro m hm
  obtain ⟨x, hx, rfl⟩ := Document.mem_ofMembers hm
  rw [isNamed_ok, beq_eq_false_iff_ne]
  rintro rfl
  exact h (List.mem_map_of_mem hx)

/-! ## Records -/

namespace Layout

variable {fs : List Field}

/-- Members of other names are only skimmed, or read in full and kept. -/
private theorem gather_others (keeps : Bool) {others : List (String × Json)}
    (hothers : ∀ x ∈ others, (Document.ofJson x.2).IsReadable levels)
    (kept : List (String × Document)) :
    gather [] keeps levels (Document.ofMembers others) none ⟨(), kept⟩ =
      .ok ⟨(), kept ++ others.map fun x => (x.1, .ofJson x.2)⟩ := by
  induction others generalizing kept with
  | nil => simp [Document.ofMembers, gather]
  | cons x others ih =>
    have hother : other keeps levels (.ofJson x.2) = .ok () := by
      obtain ⟨j, hj⟩ := hothers x List.mem_cons_self
      rw [other, Document.skim_ofJson, hj]
      cases keeps <;> rfl
    rw [Document.ofMembers, gather, Slots.fill]
    simp only [hother]
    rw [ih fun y hy => hothers y (List.mem_cons_of_mem x hy)]
    simp

/-- The members of a row, with others behind them, fill the slots of that row. -/
theorem gather_members (hfs : ∀ f ∈ fs, f.IsFaithful depth) (hlevels : depth ≤ levels)
    (keeps : Bool) (row : Row fs) {others : List (String × Json)}
    (hnames : (fs.map Field.name ++ others.map Prod.fst).Nodup)
    (hothers : ∀ x ∈ others, (Document.ofJson x.2).IsReadable levels) :
    gather fs keeps levels (Document.ofMembers (Row.members fs row ++ others)) none
        ⟨.empty fs, []⟩ =
      .ok ⟨.ofRow fs row, others.map fun x => (x.1, .ofJson x.2)⟩ := by
  induction fs with
  | nil => exact gather_others keeps hothers []
  | cons f fs ih =>
    obtain ⟨v, rest⟩ := row
    obtain ⟨hname, hnames⟩ := List.nodup_cons.1 hnames
    have hrest : ∀ m ∈ Document.ofMembers (Row.members fs rest ++ others),
        isNamed f.name m = false := by
      apply not_named_of_not_mem
      rw [List.map_append]
      exact mt (List.Sublist.mem · ((Row.names_members_sublist fs rest).append_right _)) hname
    have hbehind := ih (fun g hg => hfs g (by simp [hg])) rest hnames
    apply gather_cons_eq_ok_iff.2
    rw [Row.members]
    cases homits : f.omits v with
    | true =>
      rw [if_pos rfl, if_pos rfl, besides_eq_self hrest]
      exact ⟨fillSlot_none_eq_ok_iff.2 (.inl ⟨rfl, hrest⟩), hbehind⟩
    | false =>
      have hread := (hfs f (by simp)).codec_isFaithful.read_write levels hlevels v
      rw [if_neg Bool.false_ne_true, if_neg Bool.false_ne_true, List.cons_append,
        Document.ofMembers, besides_cons_of_named (by simp), besides_eq_self hrest]
      refine ⟨fillSlot_none_eq_ok_iff.2 (.inr ⟨[], _, _, v, rfl, ?_, hread, rfl, ?_, hrest⟩),
        hbehind⟩
      · simp
      · simp

/-- Fragments take kept members as a record takes its own. -/
theorem spreadSlots_eq_gather {kept : List (String × Json)} (slots : Slots fs)
    (g : List (String × Document)) :
    spreadSlots levels fs (kept.map fun x => (x.1, .ofJson x.2)) slots =
      (gather fs false levels (Document.ofMembers kept) none ⟨slots, g⟩).map Gathered.slots := by
  induction kept generalizing slots g with
  | nil => rfl
  | cons x kept ih =>
    have hother : other false levels (.ofJson x.2) = .ok () := by
      rw [other, Document.skim_ofJson]
      rfl
    rw [List.map_cons, Document.ofMembers, spreadSlots, gather]
    cases slots.fill levels x.1 (.ofJson x.2) with
    | none => simpa only [hother] using ih slots _
    | some filled =>
      cases filled with
      | error p => rfl
      | ok filled => exact ih filled g

variable {ρ : Type} {l : Layout ρ}

theorem exists_field_of_mem_members {r : ρ} {x : String × Json} (h : x ∈ l.members r) :
    ∃ f ∈ l.own ++ l.spread, ∃ v, f.omits v = false ∧ x = (f.name, f.codec.write v) := by
  rcases List.mem_append.1 h with h | h
  · obtain ⟨f, hf, hvalue⟩ := Row.exists_field_of_mem_members h
    exact ⟨f, List.mem_append_left _ hf, hvalue⟩
  · obtain ⟨f, hf, hvalue⟩ := Row.exists_field_of_mem_members h
    exact ⟨f, List.mem_append_right _ hf, hvalue⟩

/-- Whether the fields of a layout are faithful and have different names. -/
structure IsFaithful (l : Layout ρ) (depth : Nat) : Prop where
  field_isFaithful : ∀ f ∈ l.own ++ l.spread, f.IsFaithful depth
  nodup_names : l.names.Nodup

namespace IsFaithful

theorem mono {depth' : Nat} (h : l.IsFaithful depth) (hle : depth ≤ depth') :
    l.IsFaithful depth' where
  field_isFaithful f hf := (h.field_isFaithful f hf).mono hle
  nodup_names := h.nodup_names

theorem nodup_members (h : l.IsFaithful depth) (r : ρ) : ((l.members r).map Prod.fst).Nodup := by
  have hnames := h.nodup_names
  rw [names, List.map_append] at hnames
  rw [members, List.map_append]
  exact hnames.sublist
    ((Row.names_members_sublist _ _).append (Row.names_members_sublist _ _))

theorem isReadable_of_mem_members (h : l.IsFaithful depth) (hlevels : depth ≤ levels) {r : ρ}
    {x : String × Json} (hx : x ∈ l.members r) : (Document.ofJson x.2).IsReadable levels := by
  obtain ⟨f, hf, v, -, rfl⟩ := exists_field_of_mem_members hx
  exact (h.field_isFaithful f hf).codec_isFaithful.isReadable levels hlevels v

/-- Where a value of a field can be left out, no member of its name is `null`. -/
theorem null_not_mem_members (h : l.IsFaithful depth) {f : Field} (hf : f ∈ l.own ++ l.spread)
    {v : f.Value} (hv : f.omits v = true) (r : ρ) : (f.name, .null) ∉ l.members r := by
  intro hmem
  obtain ⟨g, hg, w, hw, heq⟩ := exists_field_of_mem_members hmem
  obtain ⟨hname, hnull⟩ := Prod.mk.inj heq
  obtain rfl : f = g := List.inj_on_of_nodup_map h.nodup_names hf hg hname
  exact (h.field_isFaithful f hf).write_ne_null w v hw hv hnull.symm

theorem readMembers_members (h : l.IsFaithful depth) (hlevels : depth ≤ levels) (r : ρ) :
    l.readMembers levels (Document.ofMembers (l.members r)) none = .ok r := by
  have hown : ∀ f ∈ l.own, f.IsFaithful depth :=
    fun f hf => h.field_isFaithful f (List.mem_append_left _ hf)
  have hspread : ∀ f ∈ l.spread, f.IsFaithful depth :=
    fun f hf => h.field_isFaithful f (List.mem_append_right _ hf)
  have hnames := h.nodup_names
  rw [names, List.map_append] at hnames
  have hothers : ∀ x ∈ (l.row r).2.members, (Document.ofJson x.2).IsReadable levels :=
    fun x hx => h.isReadable_of_mem_members hlevels (List.mem_append_right _ hx)
  have hgather := gather_members hown hlevels (!l.spread.isEmpty) (l.row r).1
    (hnames.sublist ((List.Sublist.refl _).append (Row.names_members_sublist _ _))) hothers
  have hfill : spreadSlots levels l.spread
      ((l.row r).2.members.map fun x => (x.1, .ofJson x.2)) (.empty l.spread) =
        .ok (.ofRow l.spread (l.row r).2) := by
    have hnil : (l.spread.map Field.name ++ ([] : List (String × Json)).map Prod.fst).Nodup := by
      simpa using hnames.of_append_right
    have hgather := gather_members hspread hlevels false (l.row r).2 hnil nofun
    rw [List.append_nil] at hgather
    rw [spreadSlots_eq_gather _ [], hgather]
    rfl
  have hrow : l.ofRow ((l.row r).1, (l.row r).2) = r := l.ofRow_row r
  rw [readMembers, members, hgather]
  show (Slots.row l.own (.ofRow l.own (l.row r).1) >>= _) = _
  rw [Slots.row_ofRow hown]
  show (spreadSlots levels l.spread _ _ >>= _) = _
  rw [hfill]
  show (Slots.row l.spread (.ofRow l.spread (l.row r).2) >>= _) = _
  rw [Slots.row_ofRow hspread]
  exact congrArg Except.ok hrow

/-- A record is read back from what is written of it, with one more level than its fields take. -/
theorem codec_isSolid (h : l.IsFaithful depth) : l.codec.IsSolid (depth + 1) where
  read_write levels hle r := by
    obtain ⟨levels, rfl, hlevels⟩ := Codec.exists_eq_succ hle
    exact h.readMembers_members hlevels r
  hasIntegers r := by
    apply Json.HasIntegers.object
    intro x hx
    obtain ⟨f, hf, v, -, rfl⟩ := exists_field_of_mem_members hx
    exact (h.field_isFaithful f hf).codec_isFaithful.hasIntegers v
  isReadable levels hle r := by
    obtain ⟨levels, rfl, hlevels⟩ := Codec.exists_eq_succ hle
    exact Document.isReadable_object fun x hx => h.isReadable_of_mem_members hlevels hx
  write_ne_null _ := nofun

end IsFaithful

end Layout

end VaultPki.Record

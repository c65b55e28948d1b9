import VaultPki.Proofs.Record.Absence
import VaultPki.Proofs.Text.Decimal

/-!
# Durations in a record

A duration is a text, the decimal text of an integer of 64 bits, or absent. A value that is none of
these is refused when its member is met, whatever stands behind it.
-/

namespace VaultPki.Record

open VaultPki.Json (Document Problem Defect Break)
open VaultPki.Text.Ascii (IsDecimal)

variable {levels : Nat}

/-! ## What a value is surfaced as -/

/-- What a value under the name of a duration is surfaced as. -/
inductive Surfaces : Document → Option String → Prop
  | null : Surfaces .null none
  | text (s : String) : Surfaces (.text (.ok s)) (some s)
  | integer {n : Int} {s : String} (hmin : -2 ^ 63 ≤ n) (hmax : n ≤ 2 ^ 63 - 1)
    (hs : IsDecimal s n) : Surfaces (.integer n) (some s)

theorem isInt64_iff {d : Document} {n : Int} :
    (∃ a, IsInt64 d a ∧ n = a.toInt) ↔ d = .integer n ∧ -2 ^ 63 ≤ n ∧ n ≤ 2 ^ 63 - 1 := by
  constructor
  · rintro ⟨a, rfl, rfl⟩
    exact ⟨rfl, Int64.minValue_le_toInt a, Int64.toInt_le a⟩
  · rintro ⟨rfl, hmin, hmax⟩
    have hn : n = (Int64.ofInt n).toInt :=
      (Int64.toInt_ofInt_of_le hmin (Int.lt_add_one_of_le hmax)).symm
    exact ⟨Int64.ofInt n, congrArg Document.integer hn, hn⟩

theorem surfaces_iff {d : Document} {v : Option String} :
    Surfaces d v ↔ OrNull IsDuration d v := by
  constructor
  · intro h
    cases h with
    | null => exact .inl ⟨rfl, rfl⟩
    | text s => exact .inr ⟨nofun, s, .inl rfl, rfl⟩
    | integer hmin hmax hs =>
      obtain ⟨a, ha, hn⟩ := isInt64_iff.2 ⟨rfl, hmin, hmax⟩
      have hs := Text.Ascii.isDecimal_iff.1 hs
      rw [hn] at hs
      exact .inr ⟨nofun, _, .inr ⟨a, ha, hs⟩, rfl⟩
  · rintro (⟨rfl, rfl⟩ | ⟨-, s, rfl | ⟨a, ha, rfl⟩, rfl⟩)
    · exact .null
    · exact .text s
    · obtain ⟨rfl, hmin, hmax⟩ := isInt64_iff.1 ⟨a, ha, rfl⟩
      exact .integer hmin hmax (Text.Ascii.isDecimal_repr _)

/-- Which values are surfaced at all. -/
theorem exists_surfaces_iff {d : Document} :
    (∃ v, Surfaces d v) ↔
      d = .null ∨ (∃ s, d = .text (.ok s)) ∨
        ∃ n, d = .integer n ∧ -2 ^ 63 ≤ n ∧ n ≤ 2 ^ 63 - 1 := by
  constructor
  · rintro ⟨v, h⟩
    cases h with
    | null => exact .inl rfl
    | text s => exact .inr (.inl ⟨s, rfl⟩)
    | integer hmin hmax hs => exact .inr (.inr ⟨_, rfl, hmin, hmax⟩)
  · rintro (rfl | ⟨s, rfl⟩ | ⟨n, rfl, hmin, hmax⟩)
    · exact ⟨none, .null⟩
    · exact ⟨some s, .text s⟩
    · exact ⟨some n.repr, .integer hmin hmax (Text.Ascii.isDecimal_repr n)⟩

theorem Surfaces.integer_inj {m n : Int} {v : Option String} (hm : Surfaces (.integer m) v)
    (hn : Surfaces (.integer n) v) : m = n := by
  cases hm with
  | integer _ _ hs =>
    cases hn with
    | integer _ _ hs' => exact Option.some.inj (hs.denotes.symm.trans hs'.denotes)

theorem Surfaces.skim {d : Document} {v : Option String} (h : Surfaces d v) : d.skim = none := by
  cases h <;> rfl

theorem Codec.duration_read_eq_ok_iff {d : Document} {v : Option String} :
    duration.read levels d = .ok v ↔ Surfaces d v := by
  rw [surfaces_iff, ← @denotes_duration levels]
  exact Iff.rfl

/-! ## Values that are refused -/

/-- What is wrong with a value that is read in full and then is of the wrong kind. -/
def fault (levels : Nat) (d : Document) : Problem :=
  match d.value levels with
  | .ok _ => .mismatch
  | .error defect => .defect defect

theorem fault_eq_mismatch_iff {d : Document} :
    fault levels d = .mismatch ↔ d.IsReadable levels := by
  rw [fault, Document.IsReadable]
  cases d.value levels <;> simp

theorem Codec.duration_read_of_not_surfaces {d : Document} (h : ∀ v, ¬Surfaces d v) :
    duration.read levels d = .error (fault levels d) := by
  cases hread : duration.read levels d with
  | ok v => exact absurd (duration_read_eq_ok_iff.1 hread) (h v)
  | error p =>
    rw [fault]
    simp only [duration] at hread
    split at hread
    · cases hread
    · split at hread
      · next hvalue =>
        cases hread
        rw [hvalue]
      · next hvalue =>
        split at hread
        · cases hread
          rw [hvalue]
        · cases hread

/-! ## Members that are refused -/

variable {fs : List Field} {name : String} {d : Document} {p : Problem}

theorem Slots.fill_of_refused {slots : Slots fs} (hfree : IsFree name fs slots)
    (hmem : ∃ f ∈ fs, f.name = name)
    (hread : ∀ f ∈ fs, f.name = name → f.codec.read levels d = .error p) :
    fill levels name d fs slots = some (.error p) := by
  induction fs with
  | nil =>
    obtain ⟨f, hf, -⟩ := hmem
    cases hf
  | cons f fs ih =>
    obtain ⟨slot, slots⟩ := slots
    obtain ⟨hslot, hslots⟩ := hfree
    obtain ⟨hfirst, hrest⟩ := List.forall_mem_cons.1 hread
    simp only [fill]
    by_cases hname : f.name = name
    · rw [if_pos hname, hslot hname, hfirst hname]
      rfl
    · obtain ⟨g, hg, hgname⟩ := hmem
      have hg : g ∈ fs := (List.mem_cons.1 hg).resolve_left fun heq => hname (heq ▸ hgname)
      rw [if_neg hname, ih hslots ⟨g, hg, hgname⟩ hrest]
      rfl

theorem Slots.exists_row_eq_ok (h : ∀ f ∈ fs, f.absent ≠ none) (slots : Slots fs) :
    ∃ row, slots.row = .ok row := by
  induction fs with
  | nil => exact ⟨(), rfl⟩
  | cons f fs ih =>
    obtain ⟨hf, hrest⟩ := List.forall_mem_cons.1 h
    obtain ⟨slot, slots⟩ := slots
    obtain ⟨row, hrow⟩ := ih hrest slots
    obtain ⟨v, hv⟩ := Option.ne_none_iff_exists'.1 fun hnone => hf (Option.or_eq_none_iff.1 hnone).2
    exact ⟨(v, row), row_cons_eq_ok_iff.2 ⟨hv, hrow⟩⟩

namespace Layout

/-- What members in front do is done first, and leaves the slot of another name free. -/
theorem gather_of_refused (hmem : ∃ f ∈ fs, f.name = name)
    (hread : ∀ f ∈ fs, f.name = name → f.codec.read levels d = .error p) {before : Members}
    (hbefore : ∀ m ∈ before, isNamed name m = false) (after : Members) (stop : Option Break)
    {g : Gathered fs} (hfree : Slots.IsFree name fs g.slots) :
    gather fs false levels (before ++ (.ok name, d) :: after) stop g =
      gather fs false levels before none g >>= fun _ => .error p := by
  induction before generalizing g with
  | nil =>
    simp only [List.nil_append, gather, Slots.fill_of_refused hfree hmem hread]
    rfl
  | cons m before ih =>
    obtain ⟨hm, hrest⟩ := List.forall_mem_cons.1 hbefore
    obtain ⟨n, d'⟩ := m
    rw [List.cons_append]
    cases n with
    | error defect => rfl
    | ok n =>
      have hn : n ≠ name := by simpa using hm
      simp only [gather]
      cases hfill : g.slots.fill levels n d' fs with
      | none =>
        cases other false levels d' with
        | error p => rfl
        | ok u => exact ih hrest hfree
      | some filled =>
        cases filled with
        | error p => rfl
        | ok slots => exact ih hrest (Slots.isFree_of_fill hfree hn hfill)

variable {ρ : Type} {l : Layout ρ}

/-- A record that needs no member is refused for the value of a field, if it can be read up to
there. -/
theorem IsFlat.read_of_refused (h : l.IsFlat) (habsent : ∀ f ∈ l.own, f.absent ≠ none) {f : Field}
    (hf : f ∈ l.own) (hread : f.codec.read levels d = .error p) {before : Members}
    (hbefore : ∀ m ∈ before, isNamed f.name m = false) (after : Members) (stop : Option Break) :
    l.read (levels + 1) (.object (before ++ (.ok f.name, d) :: after) stop) =
      l.read (levels + 1) (.object before none) >>= fun _ => .error p := by
  have honly : ∀ g ∈ l.own, g.name = f.name → g.codec.read levels d = .error p := by
    intro g hg hname
    obtain rfl := List.inj_on_of_nodup_map h.nodup_own hg hf hname
    exact hread
  have hgather := @gather_of_refused _ _ _ _ _ ⟨f, hf, rfl⟩ honly _ hbefore after stop
    ⟨.empty l.own, []⟩ (Slots.isFree_empty f.name l.own)
  obtain ⟨own, spread, row, ofRow, hofRow, hrow⟩ := l
  obtain rfl : spread = [] := h.spread_eq_nil
  show (gather own false levels _ stop _ >>= _) =
    (gather own false levels before none _ >>= _) >>= _
  rw [hgather]
  cases gather own false levels before none ⟨.empty own, []⟩ with
  | error p => rfl
  | ok g =>
    obtain ⟨values, hvalues⟩ := Slots.exists_row_eq_ok habsent g.slots
    show _ = (g.slots.row >>= _) >>= _
    rw [hvalues]
    show _ = (spreadSlots levels [] g.kept () >>= _) >>= _
    rw [spreadSlots_nil]
    rfl

end Layout

end VaultPki.Record

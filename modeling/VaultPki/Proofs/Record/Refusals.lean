import VaultPki.Proofs.Json.Document
import VaultPki.Proofs.Record.Members

/-!
# What is wrong with a record

A legible document is refused, where a codec has no value for it, as one of the wrong kind. So is a
record: by the first value of the wrong kind, by a member that is met twice, or by one that is
missing.
-/

namespace VaultPki.Record

open VaultPki.Json (Document Problem Defect Break)

variable {α : Type} {c : Codec α} {levels : Nat}

namespace Codec

/-- Whether a codec has a value for a document, or refuses it as one of the wrong kind. -/
def Judges (c : Codec α) (levels : Nat) (d : Document) : Prop :=
  ∀ p, c.read levels d = .error p → p = .mismatch

/-- Whether a codec judges every document with which nothing but its kind can be wrong. -/
def IsScalar (c : Codec α) : Prop :=
  ∀ levels d, d.refusal = .mismatch → c.Judges levels d

/-- Whether a codec judges every legible document. A list stands in it, so it takes a level. -/
def IsFair (c : Codec α) : Prop :=
  ∀ levels d, d.IsLegible → c.Judges (levels + 1) d

@[simp] theorem IsScalar.isFair (hc : c.IsScalar) : c.IsFair :=
  fun levels d hd => hc (levels + 1) d hd.refusal

@[simp] theorem text_isScalar : text.IsScalar := by
  intro levels d hd p h
  simp only [text] at h
  split at h
  · cases h
  · exact (Except.error.inj h).symm.trans hd

@[simp] theorem flag_isScalar : flag.IsScalar := by
  intro levels d hd p h
  simp only [flag] at h
  split at h
  · cases h
  · exact (Except.error.inj h).symm.trans hd

theorem integer_isScalar {narrow : Int → Option α} {widen : α → Int} :
    (integer narrow widen).IsScalar := by
  intro levels d hd p h
  simp only [integer] at h
  split at h
  · split at h
    · cases h
    · exact (Except.error.inj h).symm
  · exact (Except.error.inj h).symm.trans hd

@[simp] theorem uint32_isScalar : uint32.IsScalar :=
  integer_isScalar

@[simp] theorem int64_isScalar : int64.IsScalar :=
  integer_isScalar

private theorem readItems_judges {items : List Document} (h : ∀ d ∈ items, c.Judges levels d)
    {p : Problem} (hread : readItems c levels items none = .error p) : p = .mismatch := by
  induction items with
  | nil => cases hread
  | cons d items ih =>
    obtain ⟨hd, hitems⟩ := List.forall_mem_cons.1 h
    rw [readItems] at hread
    split at hread
    · next p' hp =>
      cases hread
      exact hd p hp
    · exact ih hitems (Attempt.map_eq_error_iff.1 hread)

@[simp] theorem list_isFair (hc : c.IsScalar) : c.list.IsFair := by
  intro levels d hd p h
  simp only [list] at h
  split at h
  · obtain ⟨rfl, hitems⟩ := hd
    exact readItems_judges (fun d hmem => hc levels d (hitems d hmem)) h
  · exact (Except.error.inj h).symm.trans hd.refusal

theorem nullable_judges {d : Document} (h : c.Judges levels d) : c.nullable.Judges levels d := by
  intro p hread
  simp only [nullable] at hread
  split at hread
  · cases hread
  · exact h p (Attempt.map_eq_error_iff.1 hread)

@[simp] theorem nullable_isFair (hc : c.IsFair) : c.nullable.IsFair :=
  fun levels d hd => nullable_judges (hc levels d hd)

/-- A duration is read in full before it is judged. -/
theorem duration_judges {d : Document} (hd : d.IsReadable levels) : duration.Judges levels d := by
  obtain ⟨j, hj⟩ := hd
  intro p h
  simp only [duration] at h
  split at h
  · cases h
  · simp only [hj] at h
    split at h
    · exact (Except.error.inj h).symm
    · cases h

end Codec

/-! ## Rows -/

variable {fs : List Field}

theorem Slots.eq_mismatch_of_fill {name : String} {d : Document} {slots : Slots fs} {p : Problem}
    (hjudges : ∀ f ∈ fs, f.name = name → f.codec.Judges levels d)
    (h : slots.fill levels name d = some (.error p)) : p = .mismatch := by
  induction fs with
  | nil => cases h
  | cons f fs ih =>
    obtain ⟨slot, rest⟩ := slots
    by_cases hname : f.name = name
    · cases slot with
      | some v =>
        simp only [fill, if_pos hname] at h
        exact (Except.error.inj (Option.some.inj h)).symm
      | none =>
        simp only [fill, if_pos hname] at h
        have hread := Attempt.map_eq_error_iff.1 (Option.some.inj h)
        exact hjudges f List.mem_cons_self hname p hread
    · simp only [fill, if_neg hname] at h
      obtain ⟨filled, hfilled, herror⟩ := Option.map_eq_some_iff.1 h
      obtain rfl : filled = .error p := Attempt.map_eq_error_iff.1 herror
      exact ih (fun g hg => hjudges g (List.mem_cons_of_mem f hg)) hfilled

theorem Slots.eq_mismatch_of_row {slots : Slots fs} {p : Problem} (h : slots.row = .error p) :
    p = .mismatch := by
  induction fs with
  | nil => cases h
  | cons f fs ih =>
    obtain ⟨slot, rest⟩ := slots
    rw [row] at h
    split at h
    · exact (Except.error.inj h).symm
    · exact ih (Attempt.map_eq_error_iff.1 h)

theorem Layout.eq_mismatch_of_gather {ms : Members} (hwhole : ms.AreWhole)
    (hjudges : ∀ f ∈ fs, ∀ d ∈ named f.name ms, f.codec.Judges levels d) {g : Gathered fs}
    {p : Problem} (h : gather fs false levels ms none g = .error p) : p = .mismatch := by
  induction ms generalizing g with
  | nil => cases h
  | cons m ms ih =>
    obtain ⟨⟨name, hname⟩, hskim⟩ := hwhole m List.mem_cons_self
    obtain ⟨n, d⟩ := m
    obtain rfl : n = .ok name := hname
    have hrest : ∀ f ∈ fs, ∀ x ∈ named f.name ms, f.codec.Judges levels x := by
      intro f hf x hx
      apply hjudges f hf x
      exact mem_named_of_mem (List.mem_cons_of_mem _ (mem_of_mem_named hx))
    have ih := @ih (fun x hx => hwhole x (List.mem_cons_of_mem _ hx)) hrest
    rw [gather] at h
    split at h
    · next p' hfill =>
      cases h
      apply Slots.eq_mismatch_of_fill _ hfill
      rintro f hf rfl
      exact hjudges f hf d (mem_named_of_mem List.mem_cons_self)
    · exact ih h
    · have hskim : d.skim = none := hskim
      rw [other, hskim] at h
      exact ih h

theorem Row.eq_mismatch_of_ofItems {items : List Document} (hlength : items.length ≤ fs.length)
    (hjudges : ∀ f ∈ fs, ∀ d ∈ named f.name (inOrder (fs.map Field.name) items),
      f.codec.Judges levels d)
    {p : Problem} (h : ofItems levels fs items none = .error p) : p = .mismatch := by
  induction fs generalizing items with
  | nil =>
    obtain rfl : items = [] := List.length_eq_zero_iff.1 (Nat.le_zero.1 hlength)
    cases h
  | cons f fs ih =>
    cases items with
    | nil =>
      rw [ofItems] at h
      split at h
      · exact (Except.error.inj h).symm
      · apply @ih [] (Nat.zero_le _) _ (Attempt.map_eq_error_iff.1 h)
        intro g hg d hd
        rw [inOrder_nil] at hd
        cases hd
    | cons d items =>
      rw [ofItems] at h
      split at h
      · next p' hread =>
        cases h
        exact hjudges f List.mem_cons_self d (mem_named_of_mem List.mem_cons_self) p hread
      · apply ih (Nat.le_of_succ_le_succ hlength) _ (Attempt.map_eq_error_iff.1 h)
        intro g hg x hx
        apply hjudges g (List.mem_cons_of_mem f hg)
        exact mem_named_of_mem (List.mem_cons_of_mem _ (mem_of_mem_named hx))

end VaultPki.Record

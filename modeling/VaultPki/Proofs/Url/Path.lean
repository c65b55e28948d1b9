import Mathlib
import VaultPki.Proofs.Text.Commas
import VaultPki.Proofs.Url.Percent
import VaultPki.Url.Path

/-!
# Segments of paths

The segments that reading a path leaves are settled: reading them once more changes nothing, so a
path that was read and is continued leads where the continuation leads from there. Two dots go above
that place, one level for each pair, unless a drive is in the way.
-/

namespace VaultPki.Url.Path

open Percent (codeChars pathSet IsKept)
open Text.Commas (splitAt splitAt_append)

/-! ## Settled segments -/

/-- A segment in its final form: encoded, of one piece, and no dot segment. -/
structure IsSettled (s : List Char) : Prop where
  isEncoded : encoded s = s
  noSlash : '/' ∉ s
  noBackslash : '\\' ∉ s
  noDoubleDot : isDoubleDot s = false
  noSingleDot : isSingleDot s = false

theorem isDropped_of_kept {c : Char} (h : IsKept pathSet c) : isDropped c = false := by
  obtain ⟨hset, -⟩ := h
  by_cases hc : c = '\t' ∨ c = '\n' ∨ c = '\r'
  · rcases hc with rfl | rfl | rfl <;> cases hset
  · rw [not_or, not_or] at hc
    simp [isDropped, hc]

theorem encoded_of_kept {s : List Char} (h : ∀ c ∈ s, IsKept pathSet c) : encoded s = s := by
  have hfilter : s.filter (fun c => !isDropped c) = s := by
    rw [List.filter_eq_self]
    intro c hc
    rw [isDropped_of_kept (h c hc)]
    rfl
  rw [encoded, hfilter, Percent.encode_of_kept h]

theorem encoded_encoded (s : List Char) : encoded (encoded s) = encoded s :=
  encoded_of_kept fun _ => Percent.isKept_of_mem_encode

theorem not_mem_encoded {s : List Char} {c : Char} (h : c ∉ s) (hcode : c ∉ codeChars) :
    c ∉ encoded s := by
  intro hc
  rcases Percent.mem_encode hc with ⟨hmem, -⟩ | hmem
  · exact h ((List.mem_filter.1 hmem).1)
  · exact hcode hmem

theorem isSettled_nil : IsSettled [] :=
  ⟨rfl, List.not_mem_nil, List.not_mem_nil, rfl, rfl⟩

theorem isSettled_encoded {s : List Char} (hslash : '/' ∉ s) (hback : '\\' ∉ s)
    (hdouble : isDoubleDot (encoded s) = false) (hsingle : isSingleDot (encoded s) = false) :
    IsSettled (encoded s) where
  isEncoded := encoded_encoded s
  noSlash := not_mem_encoded hslash (by decide)
  noBackslash := not_mem_encoded hback (by decide)
  noDoubleDot := hdouble
  noSingleDot := hsingle

/-- Letters, digits, hyphens and underscores. -/
def isWordChar (c : Char) : Bool :=
  c.isAlphanum || c == '-' || c == '_'

theorem toNat_lt_of_wordChar {c : Char} (h : isWordChar c = true) : c.toNat < 128 := by
  simp only [isWordChar, Char.isAlphanum, Char.isAlpha, Char.isUpper, Char.isLower, Char.isDigit,
    Bool.or_eq_true, Bool.and_eq_true, decide_eq_true_eq, beq_iff_eq] at h
  show c.val.toNat < 128
  rcases h with (((⟨-, hle⟩ | ⟨-, hle⟩) | ⟨-, hle⟩) | rfl) | rfl
  · exact Nat.lt_of_le_of_lt (UInt32.le_iff_toNat_le.1 hle) (by decide)
  · exact Nat.lt_of_le_of_lt (UInt32.le_iff_toNat_le.1 hle) (by decide)
  · exact Nat.lt_of_le_of_lt (UInt32.le_iff_toNat_le.1 hle) (by decide)
  · decide
  · decide

-- Characters are seen one by one, up to the last of ASCII.
private theorem wordChar_ofNat : ∀ n < 128, isWordChar (Char.ofNat n) = true →
    IsKept pathSet (Char.ofNat n) ∧ Char.ofNat n ∉ ['/', '\\', '.', '%'] := by
  unfold IsKept
  decide

theorem wordChar_plain {c : Char} (h : isWordChar c = true) :
    IsKept pathSet c ∧ c ∉ ['/', '\\', '.', '%'] := by
  have hc := wordChar_ofNat c.toNat (toNat_lt_of_wordChar h)
  rw [Char.ofNat_toNat] at hc
  exact hc h

theorem isSettled_of_word {s : List Char} (h : s.all isWordChar = true) : IsSettled s := by
  rw [List.all_eq_true] at h
  have hplain : ∀ c ∈ s, c ∉ ['/', '\\', '.', '%'] := fun c hc => (wordChar_plain (h c hc)).2
  have hdot : afterDot? s = none := by
    cases s with
    | nil => rfl
    | cons c s =>
      have hc := hplain c List.mem_cons_self
      unfold afterDot?
      split <;> simp_all
  exact {
    isEncoded := encoded_of_kept fun c hc => (wordChar_plain (h c hc)).1
    noSlash := fun hc => hplain _ hc (by simp)
    noBackslash := fun hc => hplain _ hc (by simp)
    noDoubleDot := by rw [isDoubleDot, hdot]
    noSingleDot := by rw [isSingleDot, hdot]; rfl }

/-! ## Reading -/

/-- The place above another, whose segments are given with the last one first. -/
def pop : List (List Char) → List (List Char)
  | [] => []
  | s :: above => if beginsWithDrive s then s :: above else above

theorem closed_up (w : Walk) : w.up.closed = pop w.closed := by
  obtain ⟨closed, foundDrive⟩ := w
  cases closed with
  | nil => rfl
  | cons s above =>
    cases hs : beginsWithDrive s <;> simp [Walk.up, pop, hs]

theorem mem_of_mem_pop {place : List (List Char)} {s : List Char} (h : s ∈ pop place) :
    s ∈ place := by
  cases place with
  | nil => exact h
  | cons x above =>
    rw [pop] at h
    split at h
    · exact h
    · exact List.mem_cons_of_mem x h

theorem enter_web (w : Walk) (s : List Char) : w.enter false s = w.close (encoded s) := rfl

theorem isSettled_of_mem_read {w : Walk} {ss : List (List Char)}
    (hw : ∀ s ∈ w.closed, IsSettled s) (hss : ∀ s ∈ ss, '/' ∉ s ∧ '\\' ∉ s) :
    ∀ s ∈ (w.read false ss).closed, IsSettled s := by
  induction ss generalizing w with
  | nil => exact hw
  | cons s ss ih =>
    have hrest : ∀ x ∈ ss, '/' ∉ x ∧ '\\' ∉ x := fun x hx => hss x (List.mem_cons_of_mem s hx)
    have hatEnd : ∀ w : Walk, (∀ x ∈ w.closed, IsSettled x) →
        ∀ x ∈ (if ss.isEmpty then w.close [] else w).closed, IsSettled x := by
      intro w hw
      split
      · intro x hx
        rcases List.mem_cons.1 hx with rfl | hx
        · exact isSettled_nil
        · exact hw x hx
      · exact hw
    rw [Walk.read]
    by_cases hdouble : isDoubleDot (encoded s) = true
    · rw [if_pos hdouble]
      refine ih (hatEnd w.up fun x hx => hw x ?_) hrest
      rw [closed_up] at hx
      exact mem_of_mem_pop hx
    · by_cases hsingle : isSingleDot (encoded s) = true
      · rw [if_neg hdouble, if_pos hsingle]
        exact ih (hatEnd w hw) hrest
      · rw [if_neg hdouble, if_neg hsingle, enter_web]
        refine ih (fun x hx => ?_) hrest
        obtain ⟨hslash, hback⟩ := hss s List.mem_cons_self
        rcases List.mem_cons.1 hx with rfl | hx
        · exact isSettled_encoded hslash hback (Bool.eq_false_iff.2 hdouble)
            (Bool.eq_false_iff.2 hsingle)
        · exact hw x hx

/-- Settled segments in front of others are closed one after the other. -/
theorem read_settled_append {w : Walk} {ss rest : List (List Char)}
    (hss : ∀ s ∈ ss, IsSettled s) :
    w.read false (ss ++ rest) = Walk.read false ⟨ss.reverse ++ w.closed, w.foundDrive⟩ rest := by
  induction ss generalizing w with
  | nil => rfl
  | cons s ss ih =>
    have hs := hss s List.mem_cons_self
    rw [List.cons_append, Walk.read, hs.isEncoded, hs.noDoubleDot, hs.noSingleDot,
      if_neg Bool.false_ne_true, if_neg Bool.false_ne_true, enter_web, hs.isEncoded,
      ih fun x hx => hss x (List.mem_cons_of_mem s hx)]
    simp [Walk.close]

end VaultPki.Url.Path

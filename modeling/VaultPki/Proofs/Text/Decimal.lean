import Mathlib
import VaultPki.Text.Ascii

/-!
# Decimal numerals

What reads as a number consists of digits, and a number that was written with zeros in front reads
as what it was. Without zeros in front there is one text only for every integer.
-/

namespace VaultPki.Text.Ascii

variable {cs : List Char} {c : Char} {n : Nat}

/-- Takes a character in behind a number that may already have failed to be one. -/
private def readDigit (acc : Option Nat) (c : Char) : Option Nat :=
  acc.bind fun n => if c.isDigit then some (10 * n + (c.toNat - 48)) else none

private theorem foldl_readDigit_none (cs : List Char) : cs.foldl readDigit none = none := by
  induction cs with
  | nil => rfl
  | cons c cs ih => exact ih

private theorem foldl_readDigit_of_isDigit (h : ∀ c ∈ cs, c.isDigit = true) (acc : Nat) :
    cs.foldl readDigit (some acc) = some (Nat.ofDigitChars 10 cs acc) := by
  induction cs generalizing acc with
  | nil => rfl
  | cons c cs ih =>
    obtain ⟨hc, hcs⟩ := List.forall_mem_cons.1 h
    have hdigit : readDigit (some acc) c = some (10 * acc + (c.toNat - 48)) := if_pos hc
    rw [List.foldl_cons, hdigit, ih hcs]
    rfl

private theorem isDigit_of_foldl_readDigit {acc : Nat}
    (h : cs.foldl readDigit (some acc) = some n) : ∀ c ∈ cs, c.isDigit = true := by
  induction cs generalizing acc with
  | nil => exact nofun
  | cons c cs ih =>
    rw [List.foldl_cons] at h
    by_cases hc : c.isDigit = true
    · have hdigit : readDigit (some acc) c = some (10 * acc + (c.toNat - 48)) := if_pos hc
      rw [hdigit] at h
      exact List.forall_mem_cons.2 ⟨hc, ih h⟩
    · have hdigit : readDigit (some acc) c = none := if_neg hc
      rw [hdigit, foldl_readDigit_none] at h
      cases h

theorem decimal?_eq_some (hne : cs ≠ []) (h : ∀ c ∈ cs, c.isDigit = true) :
    decimal? cs = some (Nat.ofDigitChars 10 cs 0) := by
  rw [decimal?, if_neg (by simpa using hne)]
  exact foldl_readDigit_of_isDigit h 0

theorem isDigit_of_decimal? (h : decimal? cs = some n) : ∀ c ∈ cs, c.isDigit = true := by
  rw [decimal?] at h
  split at h
  · cases h
  · exact isDigit_of_foldl_readDigit h

theorem ne_nil_of_decimal? (h : decimal? cs = some n) : cs ≠ [] := by
  rintro rfl
  cases h

theorem decimal?_paddedDecimal (width n : Nat) :
    decimal? (paddedDecimal width n).toList = some n := by
  have hdigits : ∀ c ∈ List.replicate (width - (Nat.toDigits 10 n).length) '0' ++ Nat.toDigits 10 n,
      c.isDigit = true := by
    intro c hc
    rcases List.mem_append.1 hc with hc | hc
    · rw [List.eq_of_mem_replicate hc]
      rfl
    · exact Nat.isDigit_of_mem_toDigits (by decide) le_rfl hc
  rw [paddedDecimal, String.toList_ofList, decimal?_eq_some (by simp [Nat.toDigits_ne_nil]) hdigits,
    Nat.ofDigitChars_append, Nat.ofDigitChars_replicate_zero, Nat.mul_zero,
    Nat.ofDigitChars_ten_toDigits]

/-! ## Digits without zeros in front -/

theorem digitChar_of_isDigit (h : c.isDigit = true) :
    c.toNat - 48 < 10 ∧ (c.toNat - 48).digitChar = c := by
  obtain ⟨hmin, hmax⟩ : 48 ≤ c.toNat ∧ c.toNat ≤ 57 := Char.isDigit_iff_toNat.1 h
  have hlt : c.toNat - 48 < 10 := by omega
  refine ⟨hlt, Char.toNat_inj.1 ?_⟩
  rw [Nat.toNat_digitChar_of_lt_ten hlt]
  omega

/-- Digits behind those of a positive number are the digits of the number that is read. -/
theorem toDigits_append_of_pos {acc : Nat} (hacc : 0 < acc) (h : ∀ c ∈ cs, c.isDigit = true) :
    Nat.toDigits 10 acc ++ cs = Nat.toDigits 10 (Nat.ofDigitChars 10 cs acc) := by
  induction cs generalizing acc with
  | nil => rw [List.append_nil, Nat.ofDigitChars_nil]
  | cons c cs ih =>
    obtain ⟨hc, hcs⟩ := List.forall_mem_cons.1 h
    obtain ⟨hlt, hchar⟩ := digitChar_of_isDigit hc
    have hdigit : Nat.toDigits 10 acc ++ [c] = Nat.toDigits 10 (10 * acc + (c.toNat - 48)) := by
      rw [← Nat.toDigits_append_toDigits (by decide) hacc hlt, Nat.toDigits_of_lt_base hlt, hchar]
    rw [Nat.ofDigitChars_cons, List.append_cons, hdigit]
    exact ih (Nat.add_pos_left (Nat.mul_pos (by decide) hacc) _) hcs

theorem toDigits_ofDigitChars (hne : cs ≠ []) (h : ∀ c ∈ cs, c.isDigit = true)
    (hzero : ∀ c rest, cs ≠ '0' :: c :: rest) :
    Nat.toDigits 10 (Nat.ofDigitChars 10 cs 0) = cs := by
  obtain ⟨c, rest, rfl⟩ := List.exists_cons_of_ne_nil hne
  obtain ⟨hc, hrest⟩ := List.forall_mem_cons.1 h
  obtain ⟨hlt, hchar⟩ := digitChar_of_isDigit hc
  by_cases hfirst : c = '0'
  · subst hfirst
    cases rest with
    | nil => rfl
    | cons next rest => exact absurd rfl (hzero next rest)
  · have hpos : 0 < c.toNat - 48 := by
      by_contra hnot
      apply hfirst
      rw [← hchar, Nat.eq_zero_of_not_pos hnot]
      rfl
    rw [Nat.ofDigitChars_cons, Nat.mul_zero, Nat.zero_add]
    show Nat.toDigits 10 (Nat.ofDigitChars 10 rest (c.toNat - 48)) = _
    rw [← toDigits_append_of_pos hpos hrest, Nat.toDigits_of_lt_base hlt, hchar]
    rfl

/-- Only the number zero begins with a zero, which stands alone. -/
theorem eq_zero_of_toDigits_eq_cons (h : Nat.toDigits 10 n = '0' :: cs) : n = 0 ∧ cs = [] := by
  have hn : n = 0 := by
    -- The last digit is split off, so the induction goes from a tenth of the number to the number.
    induction n using Nat.strongRecOn generalizing cs with
    | ind n ih =>
      by_cases hlt : n < 10
      · rw [Nat.toDigits_of_lt_base hlt] at h
        rw [← Nat.toNat_digitChar_sub_48_of_lt_ten hlt, (List.cons.inj h).1]
        rfl
      · obtain ⟨d, ds, hfront⟩ := List.exists_cons_of_ne_nil (Nat.toDigits_ne_nil (n := n / 10))
        rw [Nat.toDigits_of_base_le (by decide) (Nat.le_of_not_lt hlt), hfront] at h
        obtain ⟨rfl, -⟩ := List.cons.inj h
        have htenth : n / 10 = 0 := ih (n / 10) (by omega) hfront
        omega
  subst hn
  exact ⟨rfl, (List.cons.inj h).2.symm⟩

/-! ## Integers -/

/-- Whether a text is an integer in decimal digits, with no plus sign, with no zero in front of
other digits, and with a minus sign only in front of what is not zero. -/
structure IsDecimal (s : String) (i : Int) : Prop where
  denotes : signedDecimal? s.toList = some i
  no_plus : ∀ rest, s.toList ≠ '+' :: rest
  no_leading_zero : ∀ c rest, s.toList ≠ '0' :: c :: rest
  no_negative_zero : ∀ rest, s.toList ≠ '-' :: '0' :: rest

theorem signedDecimal?_of_isDigit (h : ∀ c ∈ cs.head?, c.isDigit = true) :
    signedDecimal? cs = (decimal? cs).map Int.ofNat := by
  rw [signedDecimal?]
  · rintro rest rfl
    exact absurd (h '+' rfl) (by decide)
  · rintro rest rfl
    exact absurd (h '-' rfl) (by decide)

theorem decimal?_toDigits (n : Nat) : decimal? (Nat.toDigits 10 n) = some n := by
  have hdigits : ∀ c ∈ Nat.toDigits 10 n, c.isDigit = true :=
    fun c hc => Nat.isDigit_of_mem_toDigits (by decide) le_rfl hc
  rw [decimal?_eq_some Nat.toDigits_ne_nil hdigits, Nat.ofDigitChars_ten_toDigits]

/-- The digits of a natural number are all that can be read as it. -/
theorem eq_toDigits_of_decimal? (h : decimal? cs = some n)
    (hzero : ∀ c rest, cs ≠ '0' :: c :: rest) :
    cs = Nat.toDigits 10 n := by
  have hdigits := isDigit_of_decimal? h
  have hne := ne_nil_of_decimal? h
  rw [decimal?_eq_some hne hdigits] at h
  rw [← Option.some.inj h, toDigits_ofDigitChars hne hdigits hzero]

theorem toList_repr_negSucc (n : Nat) :
    (Int.negSucc n).repr.toList = '-' :: Nat.toDigits 10 (n + 1) := by
  show ("-" ++ (n + 1).repr).toList = _
  rw [String.toList_append, Nat.toList_repr]
  rfl

theorem isDecimal_repr (i : Int) : IsDecimal i.repr i := by
  cases i with
  | ofNat n =>
    have htext : (Int.ofNat n).repr.toList = Nat.toDigits 10 n := Nat.toList_repr
    have hdigits : ∀ c ∈ Nat.toDigits 10 n, c.isDigit = true :=
      fun c hc => Nat.isDigit_of_mem_toDigits (by decide) le_rfl hc
    refine ⟨?_, fun rest h => ?_, fun c rest h => ?_, fun rest h => ?_⟩
    · rw [htext, signedDecimal?_of_isDigit fun c hc => hdigits c (List.mem_of_mem_head? hc),
        decimal?_toDigits]
      rfl
    · rw [htext] at h
      exact absurd (hdigits '+' (h ▸ List.mem_cons_self)) (by decide)
    · rw [htext] at h
      cases (eq_zero_of_toDigits_eq_cons h).2
    · rw [htext] at h
      exact absurd (hdigits '-' (h ▸ List.mem_cons_self)) (by decide)
  | negSucc n =>
    have htext := toList_repr_negSucc n
    refine ⟨?_, fun rest h => ?_, fun c rest h => ?_, fun rest h => ?_⟩
    · rw [htext, signedDecimal?, decimal?_toDigits]
      rfl
    · rw [htext] at h
      exact absurd (List.cons.inj h).1 (by decide)
    · rw [htext] at h
      exact absurd (List.cons.inj h).1 (by decide)
    · rw [htext] at h
      cases (eq_zero_of_toDigits_eq_cons (List.cons.inj h).2).1

theorem eq_repr_of_isDecimal {s : String} {i : Int} (h : IsDecimal s i) : s = i.repr := by
  obtain ⟨hdenotes, hplus, hzero, hnegative⟩ := h
  rw [← String.toList_inj]
  generalize s.toList = cs at *
  rw [signedDecimal?.eq_def] at hdenotes
  split at hdenotes
  · next rest => exact absurd rfl (hplus rest)
  · next rest =>
    obtain ⟨n, hn, rfl⟩ := Option.map_eq_some_iff.1 hdenotes
    have hrest : rest = Nat.toDigits 10 n :=
      eq_toDigits_of_decimal? hn fun c rest' hrest => hnegative (c :: rest') (hrest ▸ rfl)
    cases n with
    | zero => exact absurd (congrArg ('-' :: ·) hrest) (hnegative [])
    | succ n =>
      rw [hrest, ← toList_repr_negSucc]
      rfl
  · obtain ⟨n, hn, rfl⟩ := Option.map_eq_some_iff.1 hdenotes
    rw [eq_toDigits_of_decimal? hn hzero]
    exact Nat.toList_repr.symm

/-- Every integer has one text in decimal digits. -/
theorem isDecimal_iff {s : String} {i : Int} : IsDecimal s i ↔ s = i.repr := by
  constructor
  · exact eq_repr_of_isDecimal
  · rintro rfl
    exact isDecimal_repr i

end VaultPki.Text.Ascii

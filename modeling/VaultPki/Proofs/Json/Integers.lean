import VaultPki.Proofs.Json.Strings

/-!
# Integers in JSON texts

An integer of 64 bits is written in decimal digits without a zero in front, and read as what it was
if no more digits, no point and no exponent follow.
-/

namespace VaultPki.Json.Reader

/-! ## Digits -/

/-- The bytes of a natural number in decimal digits. -/
def digits (n : Nat) : List UInt8 :=
  bytes (Nat.toDigits 10 n)

private theorem utf8EncodeChar_digitChar :
    ∀ d < 10, String.utf8EncodeChar d.digitChar = [UInt8.ofNat (48 + d)] := by
  decide

theorem digits_of_lt {n : Nat} (h : n < 10) : digits n = [UInt8.ofNat (48 + n)] := by
  rw [digits, Nat.toDigits_of_lt_base h, bytes_singleton, utf8EncodeChar_digitChar n h]

theorem digits_of_le {n : Nat} (h : 10 ≤ n) :
    digits n = digits (n / 10) ++ [UInt8.ofNat (48 + n % 10)] := by
  rw [digits, Nat.toDigits_of_base_le (by decide) h, bytes_append, bytes_singleton,
    utf8EncodeChar_digitChar (n % 10) (Nat.mod_lt n (by decide)), digits]

private theorem isDigit_ofNat : ∀ d < 10, isDigit (UInt8.ofNat (48 + d)) = true := by
  decide

private theorem digitValue_ofNat : ∀ d < 10, digitValue (UInt8.ofNat (48 + d)) = d := by
  decide

theorem isDigit_of_mem_digits (n : Nat) : ∀ b ∈ digits n, isDigit b = true := by
  -- The last digit is split off, so the induction goes from a tenth of the number to the number.
  induction n using Nat.strongRecOn with
  | ind n ih =>
    by_cases h : n < 10
    · rw [digits_of_lt h]
      intro b hb
      rw [List.mem_singleton.1 hb]
      exact isDigit_ofNat n h
    · rw [digits_of_le (Nat.le_of_not_lt h)]
      intro b hb
      rcases List.mem_append.1 hb with hb | hb
      · exact ih (n / 10) (by omega) b hb
      · rw [List.mem_singleton.1 hb]
        exact isDigit_ofNat (n % 10) (Nat.mod_lt n (by decide))

theorem digitsValue_digits (n : Nat) : digitsValue (digits n) = n := by
  induction n using Nat.strongRecOn with
  | ind n ih =>
    by_cases h : n < 10
    · rw [digits_of_lt h, digitsValue, List.foldl_cons, List.foldl_nil, digitValue_ofNat n h]
      omega
    · have hfront := ih (n / 10) (by omega)
      rw [digitsValue] at hfront
      rw [digits_of_le (Nat.le_of_not_lt h), digitsValue, List.foldl_append, hfront,
        List.foldl_cons, List.foldl_nil, digitValue_ofNat (n % 10) (Nat.mod_lt n (by decide))]
      omega

/-- Only the number zero begins with a zero, which stands alone. -/
theorem exists_digits_eq_cons (n : Nat) :
    ∃ d ds, digits n = d :: ds ∧ (d = 48 → n = 0 ∧ ds = []) := by
  induction n using Nat.strongRecOn with
  | ind n ih =>
    by_cases h : n < 10
    · refine ⟨_, _, digits_of_lt h, fun hzero => ⟨?_, rfl⟩⟩
      have hvalue := congrArg digitValue hzero
      rw [digitValue_ofNat n h] at hvalue
      exact hvalue
    · obtain ⟨d, ds, hdigits, hzero⟩ := ih (n / 10) (by omega)
      refine ⟨d, ds ++ [UInt8.ofNat (48 + n % 10)], ?_, fun hd => ?_⟩
      · rw [digits_of_le (Nat.le_of_not_lt h), hdigits, List.cons_append]
      · have hn := (hzero hd).1
        omega

/-! ## Numbers -/

/-- Whether a number may end in front of bytes. -/
def EndsNumber (rest : List UInt8) : Prop :=
  ∀ b ∈ rest.head?, isDigit b = false ∧ b ≠ 46 ∧ b ≠ 101 ∧ b ≠ 69

theorem endsNumber_nil : EndsNumber [] := by
  intro b hb
  cases hb

theorem endsNumber_cons {b : UInt8} (h : isDigit b = false ∧ b ≠ 46 ∧ b ≠ 101 ∧ b ≠ 69)
    (s : List UInt8) : EndsNumber (b :: s) := by
  intro x hx
  rw [List.head?_cons, Option.mem_some] at hx
  rw [← hx]
  exact h

variable {rest : List UInt8}

private theorem takeWhile_digits {ds : List UInt8} (hds : ∀ b ∈ ds, isDigit b = true)
    (hrest : EndsNumber rest) :
    (ds ++ rest).takeWhile isDigit = ds ∧ (ds ++ rest).dropWhile isDigit = rest := by
  have hhead : rest.takeWhile isDigit = [] ∧ rest.dropWhile isDigit = rest := by
    cases rest with
    | nil => exact ⟨rfl, rfl⟩
    | cons b rest =>
      have hb := (hrest b rfl).1
      exact ⟨List.takeWhile_cons_of_neg (by simp [hb]), List.dropWhile_cons_of_neg (by simp [hb])⟩
  rw [List.takeWhile_append_of_pos hds, List.dropWhile_append_of_pos hds, hhead.1, hhead.2,
    List.append_nil]
  exact ⟨rfl, rfl⟩

theorem wholePart_digits (n : Nat) (hrest : EndsNumber rest) :
    wholePart (digits n ++ rest) = .ok (digits n, rest) := by
  obtain ⟨d, ds, hdigits, hzero⟩ := exists_digits_eq_cons n
  have hall := isDigit_of_mem_digits n
  rw [hdigits] at hall ⊢
  by_cases hd : d = 48
  · rw [(hzero hd).2, hd]
    cases rest with
    | nil => rfl
    | cons b rest =>
      show (if isDigit b then _ else .ok ([48], b :: rest) :
        Except Break (List UInt8 × List UInt8)) = _
      rw [(hrest b rfl).1, if_neg Bool.false_ne_true]
  · have hbehind := takeWhile_digits (fun b hb => hall b (List.mem_cons_of_mem d hb)) hrest
    show (if d == 48 then _ else if isDigit d then
      .ok (d :: (ds ++ rest).takeWhile isDigit, (ds ++ rest).dropWhile isDigit)
      else _ : Except Break (List UInt8 × List UInt8)) = _
    rw [if_neg (by simpa using hd), if_pos (hall d List.mem_cons_self), hbehind.1, hbehind.2]

theorem fractionPart_end (hrest : EndsNumber rest) : fractionPart rest = .ok (none, rest) := by
  cases rest with
  | nil => rfl
  | cons b rest =>
    have hb := (hrest b rfl).2.1
    rw [fractionPart, if_neg (by simpa using hb)]

theorem exponentPart_end (hrest : EndsNumber rest) : exponentPart rest = .ok (none, rest) := by
  cases rest with
  | nil => rfl
  | cons b rest =>
    have hb := (hrest b rfl).2.2
    exact if_neg (by simpa using hb)

theorem numeral_digits (n : Nat) (hrest : EndsNumber rest) :
    numeral (digits n ++ rest) = .ok (⟨false, digits n, none, none⟩, rest) ∧
      numeral (45 :: (digits n ++ rest)) = .ok (⟨true, digits n, none, none⟩, rest) := by
  have hwhole := wholePart_digits n hrest
  constructor
  · obtain ⟨d, ds, hdigits, -⟩ := exists_digits_eq_cons n
    have hd : isDigit d = true := isDigit_of_mem_digits n d (hdigits ▸ List.mem_cons_self)
    have hsign : (d == 45) = false := by
      rw [beq_eq_false_iff_ne]
      rintro rfl
      cases hd
    rw [hdigits, List.cons_append] at hwhole ⊢
    unfold numeral
    simp only [hsign, Bool.false_eq_true, if_false, hwhole, fractionPart_end hrest,
      exponentPart_end hrest, bind, Except.bind, pure, Except.pure]
  · unfold numeral
    simp only [beq_self_eq_true, if_true, hwhole, fractionPart_end hrest, exponentPart_end hrest,
      bind, Except.bind, pure, Except.pure]

/-- Whether an integer can be held in 64 bits, with a sign or without one. -/
def IsInRange (i : Int) : Prop :=
  Int64.minValue.toInt ≤ i ∧ i < UInt64.size

/-- An integer that was written is read as what it was. -/
theorem number_written {i : Int} (hi : IsInRange i) (hrest : EndsNumber rest) :
    number (bytes i.repr.toList ++ rest) = .ok (.integer i, rest) := by
  obtain ⟨hmin, hmax⟩ := hi
  rw [Int.repr_eq_if]
  by_cases hsign : 0 ≤ i
  · rw [if_pos hsign, Nat.toList_repr]
    have hinteger : (⟨false, digits i.toNat, none, none⟩ : Numeral).integer? = some i := by
      have hvalue : (i.toNat : Int) = i := Int.toNat_of_nonneg hsign
      show (if digitsValue (digits i.toNat) < UInt64.size then
        some (digitsValue (digits i.toNat) : Int) else none) = _
      rw [digitsValue_digits, if_pos (by omega), hvalue]
    rw [number, ← digits, (numeral_digits i.toNat hrest).1]
    simp only [hinteger]
  · rw [if_neg hsign, String.toList_append, Nat.toList_repr]
    have hinteger : (⟨true, digits (-i).toNat, none, none⟩ : Numeral).integer? = some i := by
      have hvalue : -((-i).toNat : Int) = i := by omega
      show (if 0 < digitsValue (digits (-i).toNat) &&
          Int64.minValue.toInt ≤ -(digitsValue (digits (-i).toNat) : Int) then
        some (-(digitsValue (digits (-i).toNat) : Int)) else none) = _
      rw [digitsValue_digits, hvalue, if_pos]
      simp only [Bool.and_eq_true, decide_eq_true_eq]
      omega
    have hbytes : bytes ("-".toList ++ Nat.toDigits 10 (-i).toNat) ++ rest =
        45 :: (digits (-i).toNat ++ rest) := by
      rw [bytes_append, List.append_assoc]
      rfl
    rw [number, hbytes, (numeral_digits (-i).toNat hrest).2]
    simp only [hinteger]

end VaultPki.Json.Reader

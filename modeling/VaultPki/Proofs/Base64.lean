import Mathlib
import VaultPki.Base64

/-!
# What Base64 stands for

A text in Base64 is a row of bits, of which each digit has six and each byte eight. Reading cuts the
bits of the digits into bytes; fewer bits than one digit has are left over.
-/

namespace VaultPki.Base64

variable {text content : List UInt8}

/-! ## Bits -/

/-- The lowest bits of a number, the highest of them first. -/
def bits : Nat → Nat → List Bool
  | 0, _ => []
  | k + 1, n => n.testBit k :: bits k n

def byteBits (b : UInt8) : List Bool :=
  bits 8 b.toNat

theorem length_bits (k n : Nat) : (bits k n).length = k := by
  induction k with
  | zero => rfl
  | succ k ih => rw [bits, List.length_cons, ih]

theorem bits_add (j k n : Nat) : bits (j + k) n = bits j (n / 2 ^ k) ++ bits k n := by
  induction j with
  | zero => rw [Nat.zero_add, bits, List.nil_append]
  | succ j ih =>
    rw [Nat.add_right_comm, bits, ih, bits, Nat.testBit_div_two_pow, List.cons_append]

theorem bits_eq_iff {k m n : Nat} : bits k m = bits k n ↔ m % 2 ^ k = n % 2 ^ k := by
  have hbits : bits k m = bits k n ↔ ∀ i < k, m.testBit i = n.testBit i := by
    induction k with
    | zero => simp [bits]
    | succ k ih => simp only [bits, List.cons.injEq, ih, Nat.forall_lt_succ_right, and_comm]
  rw [hbits]
  constructor
  · intro h
    apply Nat.eq_of_testBit_eq
    intro i
    rw [Nat.testBit_mod_two_pow, Nat.testBit_mod_two_pow]
    by_cases hi : i < k
    · rw [h i hi]
    · simp [hi]
  · intro h i hi
    have hbit := congrArg (fun x => x.testBit i) h
    simpa [Nat.testBit_mod_two_pow, hi] using hbit

/-- A number that is put together from two has the bits of both. -/
theorem bits_mul_add (j : Nat) {k m : Nat} (n : Nat) (h : m < 2 ^ k) :
    bits (j + k) (n * 2 ^ k + m) = bits j n ++ bits k m := by
  have hquotient : (n * 2 ^ k + m) / 2 ^ k = n := by
    rw [Nat.add_comm, Nat.add_mul_div_right _ _ (Nat.two_pow_pos k), Nat.div_eq_of_lt h,
      Nat.zero_add]
  have hrest : bits k (n * 2 ^ k + m) = bits k m := by
    rw [bits_eq_iff, Nat.add_comm, Nat.add_mul_mod_self_right]
  rw [bits_add, hquotient, hrest]

theorem bits_mod_mul_add (j : Nat) {k m : Nat} (n : Nat) (h : m < 2 ^ k) :
    bits (j + k) (n % 2 ^ j * 2 ^ k + m) = bits j n ++ bits k m := by
  rw [bits_mul_add j _ h, bits_eq_iff.2 (Nat.mod_mod n (2 ^ j))]

theorem byteBits_ofNat (n : Nat) : byteBits (UInt8.ofNat n) = bits 8 n := by
  rw [byteBits, bits_eq_iff, UInt8.toNat_ofNat', Nat.mod_mod]

theorem byteBits_inj {a b : UInt8} (h : byteBits a = byteBits b) : a = b := by
  rw [byteBits, byteBits, bits_eq_iff, Nat.mod_eq_of_lt a.toNat_lt,
    Nat.mod_eq_of_lt b.toNat_lt] at h
  exact UInt8.toNat_inj.1 h

theorem length_flatMap_bits (k : Nat) (values : List Nat) :
    (values.flatMap (bits k)).length = k * values.length := by
  simp [List.length_flatMap, length_bits, Nat.mul_comm]

theorem length_flatMap_byteBits (bs : List UInt8) :
    (bs.flatMap byteBits).length = 8 * bs.length := by
  simp [List.length_flatMap, byteBits, length_bits, Nat.mul_comm]

/-- Bytes can be read off their bits, also if fewer than eight bits follow. -/
theorem flatMap_byteBits_inj {as bs : List UInt8} {s t : List Bool} (hs : s.length < 8)
    (ht : t.length < 8) (h : as.flatMap byteBits ++ s = bs.flatMap byteBits ++ t) : as = bs := by
  have hlength : as.length = bs.length := by
    have := congrArg List.length h
    rw [List.length_append, List.length_append, length_flatMap_byteBits,
      length_flatMap_byteBits] at this
    omega
  induction as generalizing bs with
  | nil => rw [List.eq_nil_of_length_eq_zero hlength.symm]
  | cons a as ih =>
    cases bs with
    | nil => cases hlength
    | cons b bs =>
      rw [List.flatMap_cons, List.flatMap_cons, List.append_assoc, List.append_assoc] at h
      obtain ⟨hhead, htail⟩ := List.append_inj h (by simp [byteBits, length_bits])
      rw [byteBits_inj hhead, ih htail (Nat.succ.inj hlength)]

/-! ## Digits -/

theorem toNat_digit : ∀ n < 64, (digit n).toNat =
    if n < 26 then n + 65 else if n < 52 then n + 71 else if n < 62 then n - 4
    else if n = 62 then 43 else 47 := by
  decide

theorem value?_eq_some_iff {b : UInt8} {n : Nat} : value? b = some n ↔ n < 64 ∧ b = digit n := by
  simp only [value?, Bool.and_eq_true, decide_eq_true_eq, UInt8.le_iff_toNat_le, beq_iff_eq,
    ← UInt8.toNat_inj, UInt8.reduceToNat]
  constructor
  · intro h
    have hn : n < 64 := by split_ifs at h <;> cases h <;> omega
    refine ⟨hn, ?_⟩
    rw [toNat_digit n hn]
    split_ifs at h <;> cases h <;> split_ifs <;> omega
  · rintro ⟨hn, hb⟩
    rw [toNat_digit n hn] at hb
    split_ifs at hb <;> split_ifs <;> first | omega | exact congrArg some (by omega)

theorem digit_ne_pad {n : Nat} (h : n < 64) : digit n ≠ pad := by
  intro hpad
  have hvalue := value?_eq_some_iff.2 ⟨h, rfl⟩
  rw [hpad] at hvalue
  cases hvalue

theorem mapM_value?_eq_some_iff {digits : List UInt8} {values : List Nat} :
    digits.mapM value? = some values ↔ (∀ n ∈ values, n < 64) ∧ digits = values.map digit := by
  induction digits generalizing values with
  | nil => cases values <;> simp
  | cons b digits ih =>
    rw [List.mapM_cons]
    simp only [Option.bind_eq_bind, Option.pure_def, Option.bind_eq_some_iff, ih,
      value?_eq_some_iff, Option.some.injEq]
    constructor
    · rintro ⟨n, ⟨hn, rfl⟩, values, ⟨hvalues, rfl⟩, rfl⟩
      exact ⟨List.forall_mem_cons.2 ⟨hn, hvalues⟩, rfl⟩
    · rintro ⟨hvalues, hdigits⟩
      cases values with
      | nil => cases hdigits
      | cons n values =>
        obtain ⟨rfl, rfl⟩ := List.cons.inj hdigits
        obtain ⟨hn, hvalues⟩ := List.forall_mem_cons.1 hvalues
        exact ⟨n, ⟨hn, rfl⟩, values, ⟨hvalues, rfl⟩, rfl⟩

/-- Three bytes, or what is left of three, have the bits of their digits. -/
theorem bytes_bits {values : List Nat} (hvalues : ∀ n ∈ values, n < 64)
    (hlength : values.length % 4 ≠ 1) :
    ∃ surplus, values.flatMap (bits 6) = (bytes values).flatMap byteBits ++ surplus ∧
      surplus.length < 6 := by
  have hfirst (a : Nat) {b : Nat} (hb : b < 64) :
      bits 8 (a * 4 + b / 16) = bits 6 a ++ bits 2 (b / 16) :=
    bits_mul_add 6 a (k := 2) (by omega)
  have hsecond (b : Nat) {c : Nat} (hc : c < 64) :
      bits 8 (b % 16 * 16 + c / 4) = bits 4 b ++ bits 4 (c / 4) :=
    bits_mod_mul_add 4 b (k := 4) (by omega)
  have hthird (c : Nat) {d : Nat} (hd : d < 64) :
      bits 8 (c % 4 * 64 + d) = bits 2 c ++ bits 6 d :=
    bits_mod_mul_add 2 c (k := 6) hd
  have hcut₂ (b : Nat) : bits 6 b = bits 2 (b / 16) ++ bits 4 b := bits_add 2 4 b
  have hcut₃ (c : Nat) : bits 6 c = bits 4 (c / 4) ++ bits 2 c := bits_add 4 2 c
  induction values using bytes.induct with
  | case1 a b c d rest ih =>
    simp only [List.forall_mem_cons] at hvalues
    obtain ⟨ha, hb, hc, hd, hrest⟩ := hvalues
    obtain ⟨surplus, hsurplus, hlt⟩ := ih hrest (by simp only [List.length_cons] at hlength; omega)
    refine ⟨surplus, ?_, hlt⟩
    simp only [bytes, List.flatMap_cons, byteBits_ofNat, hfirst a hb, hsecond b hc, hthird c hd,
      hsurplus, hcut₂ b, hcut₃ c, List.append_assoc]
  | case2 a b c =>
    simp only [List.forall_mem_cons] at hvalues
    obtain ⟨ha, hb, hc, -⟩ := hvalues
    refine ⟨bits 2 c, ?_, by simp [length_bits]⟩
    simp only [bytes, List.flatMap_cons, List.flatMap_nil, byteBits_ofNat, hfirst a hb,
      hsecond b hc, hcut₂ b, hcut₃ c, List.append_assoc, List.append_nil]
  | case3 a b =>
    simp only [List.forall_mem_cons] at hvalues
    obtain ⟨ha, hb, -⟩ := hvalues
    refine ⟨bits 4 b, ?_, by simp [length_bits]⟩
    simp only [bytes, List.flatMap_cons, List.flatMap_nil, byteBits_ofNat, hfirst a hb, hcut₂ b,
      List.append_assoc, List.append_nil]
  | case4 values h₄ h₃ h₂ =>
    match values with
    | [] => exact ⟨[], rfl, by simp⟩
    | [a] => exact absurd rfl hlength
    | [a, b] => exact absurd rfl (h₂ a b)
    | [a, b, c] => exact absurd rfl (h₃ a b c)
    | a :: b :: c :: d :: rest => exact absurd rfl (h₄ a b c d rest)

/-! ## Reading -/

/-- Whether a text is Base64 for a content. Without blanks it consists of digits, which may be
padded to a whole number of groups of four. They have the bits of the content; fewer than six more
may follow, which count for nothing. -/
def Denotes (text content : List UInt8) : Prop :=
  ∃ (values : List Nat) (pads : Nat) (surplus : List Bool),
    (∀ n ∈ values, n < 64) ∧
      (text.filter fun b => !isBlank b) = values.map digit ++ List.replicate pads pad ∧
      (pads = 0 ∨ pads < 4 ∧ 4 ∣ values.length + pads) ∧
      values.flatMap (bits 6) = content.flatMap byteBits ++ surplus ∧ surplus.length < 6

theorem isComplete_iff (digits pads : Nat) :
    isComplete digits pads = true ↔
      digits % 4 ≠ 1 ∧ (pads = 0 ∨ pads < 4 ∧ 4 ∣ digits + pads) := by
  have hcases : digits % 4 = 0 ∨ digits % 4 = 1 ∨ digits % 4 = 2 ∨ digits % 4 = 3 := by omega
  rcases hcases with h | h | h | h <;> simp [isComplete, h] <;> omega

/-- A text that is cut into digits and padding signs is read from its digits. -/
theorem decode?_of_filter {values : List Nat} {pads : Nat} (hvalues : ∀ n ∈ values, n < 64)
    (htext : (text.filter fun b => !isBlank b) = values.map digit ++ List.replicate pads pad) :
    decode? text = if isComplete values.length pads then some (bytes values) else none := by
  have hdigits : ∀ b ∈ values.map digit, (b != pad) = true := by
    intro b hb
    obtain ⟨n, hn, rfl⟩ := List.mem_map.1 hb
    exact bne_iff_ne.2 (digit_ne_pad (hvalues n hn))
  have htake : (values.map digit ++ List.replicate pads pad).takeWhile (· != pad) =
      values.map digit := by
    rw [List.takeWhile_append_of_pos hdigits, List.takeWhile_replicate, if_neg (by simp),
      List.append_nil]
  have hdrop : (values.map digit ++ List.replicate pads pad).dropWhile (· != pad) =
      List.replicate pads pad := by
    rw [List.dropWhile_append_of_pos hdigits, List.dropWhile_replicate, if_neg (by simp)]
  have hpads : (List.replicate pads pad).all (· == pad) = true := by simp
  rw [decode?, htext, htake, hdrop, mapM_value?_eq_some_iff.2 ⟨hvalues, rfl⟩]
  simp only [hpads, Bool.true_and, List.length_replicate]

/-- Reading is exactly finding out what a text stands for. -/
theorem decode?_eq_some_iff : decode? text = some content ↔ Denotes text content := by
  constructor
  · intro h
    have h' := h
    rw [decode?] at h'
    set signs := text.filter fun b => !isBlank b with hsigns
    cases hmap : (signs.takeWhile (· != pad)).mapM value? with
    | none =>
      rw [hmap] at h'
      cases h'
    | some values =>
      obtain ⟨hvalues, hdigits⟩ := mapM_value?_eq_some_iff.1 hmap
      simp only [hmap, Option.ite_none_right_eq_some, Bool.and_eq_true, List.all_eq_true,
        beq_iff_eq, Option.some.injEq] at h'
      obtain ⟨⟨hpads, hcomplete⟩, rfl⟩ := h'
      obtain ⟨hlength, hpadding⟩ := (isComplete_iff _ _).1 hcomplete
      obtain ⟨surplus, hbits, hsurplus⟩ := bytes_bits hvalues hlength
      refine ⟨values, _, surplus, hvalues, ?_, hpadding, hbits, hsurplus⟩
      rw [← hdigits, ← List.eq_replicate_iff.2 ⟨rfl, hpads⟩, List.takeWhile_append_dropWhile]
  · rintro ⟨values, pads, surplus, hvalues, htext, hpads, hbits, hsurplus⟩
    have hlength : values.length % 4 ≠ 1 := by
      have := congrArg List.length hbits
      rw [length_flatMap_bits, List.length_append, length_flatMap_byteBits] at this
      omega
    obtain ⟨surplus', hbits', hsurplus'⟩ := bytes_bits hvalues hlength
    rw [decode?_of_filter hvalues htext, if_pos ((isComplete_iff _ _).2 ⟨hlength, hpads⟩),
      flatMap_byteBits_inj (by omega) (by omega) (hbits'.symm.trans hbits)]

/-- What is written is padded and stands for what it was written from. -/
theorem exists_digits_encode (content : List UInt8) :
    ∃ (values : List Nat) (pads : Nat) (surplus : List Bool),
      (∀ n ∈ values, n < 64) ∧
        encode content = values.map digit ++ List.replicate pads pad ∧
        pads < 4 ∧ 4 ∣ values.length + pads ∧
        values.flatMap (bits 6) = content.flatMap byteBits ++ surplus ∧ surplus.length < 6 := by
  have hsecond (a b : UInt8) :
      bits 6 (a.toNat % 4 * 16 + b.toNat / 16) = bits 2 a.toNat ++ bits 4 (b.toNat / 16) :=
    bits_mod_mul_add 2 a.toNat (k := 4) (by have := b.toNat_lt; omega)
  have hthird (b c : UInt8) :
      bits 6 (b.toNat % 16 * 4 + c.toNat / 64) = bits 4 b.toNat ++ bits 2 (c.toNat / 64) :=
    bits_mod_mul_add 4 b.toNat (k := 2) (by have := c.toNat_lt; omega)
  have hfourth (c : UInt8) : bits 6 (c.toNat % 64) = bits 6 c.toNat :=
    bits_eq_iff.2 (Nat.mod_mod c.toNat (2 ^ 6))
  have hcut₁ (a : UInt8) : byteBits a = bits 6 (a.toNat / 4) ++ bits 2 a.toNat := bits_add 6 2 _
  have hcut₂ (b : UInt8) : byteBits b = bits 4 (b.toNat / 16) ++ bits 4 b.toNat := bits_add 4 4 _
  have hcut₃ (c : UInt8) : byteBits c = bits 2 (c.toNat / 64) ++ bits 6 c.toNat := bits_add 2 6 _
  induction content using encode.induct with
  | case1 a b c rest ih =>
    obtain ⟨values, pads, surplus, hvalues, hencode, hpads, hgroups, hbits, hsurplus⟩ := ih
    have ha := a.toNat_lt
    have hb := b.toNat_lt
    have hc := c.toNat_lt
    refine ⟨a.toNat / 4 :: (a.toNat % 4 * 16 + b.toNat / 16) ::
      (b.toNat % 16 * 4 + c.toNat / 64) :: c.toNat % 64 :: values, pads, surplus, ?_, ?_, hpads,
      ?_, ?_, hsurplus⟩
    · simp only [List.forall_mem_cons]
      exact ⟨by omega, by omega, by omega, by omega, hvalues⟩
    · rw [encode, hencode]
      rfl
    · simp only [List.length_cons]
      omega
    · simp only [List.flatMap_cons, hsecond, hthird, hfourth, hcut₁ a, hcut₂ b, hcut₃ c, hbits,
        List.append_assoc]
  | case2 a b =>
    have hlast : bits 6 (b.toNat % 16 * 4) = bits 4 b.toNat ++ bits 2 0 :=
      bits_mod_mul_add 4 b.toNat (k := 2) (m := 0) (by decide)
    have ha := a.toNat_lt
    have hb := b.toNat_lt
    refine ⟨[a.toNat / 4, a.toNat % 4 * 16 + b.toNat / 16, b.toNat % 16 * 4], 1, bits 2 0, ?_, rfl,
      by decide, ⟨1, rfl⟩, ?_, by decide⟩
    · simp only [List.forall_mem_cons]
      exact ⟨by omega, by omega, by omega, nofun⟩
    · simp only [List.flatMap_cons, List.flatMap_nil, hsecond, hlast, hcut₁ a, hcut₂ b,
        List.append_assoc, List.append_nil]
  | case3 a =>
    have hlast : bits 6 (a.toNat % 4 * 16) = bits 2 a.toNat ++ bits 4 0 :=
      bits_mod_mul_add 2 a.toNat (k := 4) (m := 0) (by decide)
    have ha := a.toNat_lt
    refine ⟨[a.toNat / 4, a.toNat % 4 * 16], 2, bits 4 0, ?_, rfl, by decide, ⟨1, rfl⟩, ?_,
      by decide⟩
    · simp only [List.forall_mem_cons]
      exact ⟨by omega, by omega, nofun⟩
    · simp only [List.flatMap_cons, List.flatMap_nil, hlast, hcut₁ a, List.append_assoc,
        List.append_nil]
  | case4 => exact ⟨[], 0, [], nofun, rfl, by decide, by decide, rfl, by decide⟩

/-- Standard Base64, cut by blanks at will, stands for what it was written from. -/
theorem denotes_of_filter (h : (text.filter fun b => !isBlank b) = encode content) :
    Denotes text content := by
  obtain ⟨values, pads, surplus, hvalues, hencode, hpads, hgroups, hbits⟩ :=
    exists_digits_encode content
  exact ⟨values, pads, surplus, hvalues, h.trans hencode, .inr ⟨hpads, hgroups⟩, hbits⟩

/-! ## Signs -/

/-- Blanks count for nothing. -/
theorem decode?_congr {text' : List UInt8}
    (h : (text.filter fun b => !isBlank b) = text'.filter fun b => !isBlank b) :
    decode? text = decode? text' := by
  rw [decode?, decode?, h]

/-- No dash stands in Base64. -/
theorem Denotes.not_mem_dash (h : Denotes text content) : (45 : UInt8) ∉ text := by
  obtain ⟨values, pads, -, hvalues, htext, -⟩ := h
  intro hmem
  have hdigits : ∀ n < 64, digit n ≠ 45 := by
    decide
  have hsign : (45 : UInt8) ∈ values.map digit ++ List.replicate pads pad := by
    rw [← htext]
    exact List.mem_filter.2 ⟨hmem, by decide⟩
  rcases List.mem_append.1 hsign with h | h
  · obtain ⟨n, hn, hdash⟩ := List.mem_map.1 h
    exact hdigits n (hvalues n hn) hdash
  · cases List.eq_of_mem_replicate h

end VaultPki.Base64

import Mathlib
import VaultPki.Text.Utf8

/-!
# Decoding what was encoded

At the front of the bytes of a text stands its first character, whatever follows. So the bytes of a
text are decoded to that text.
-/

namespace VaultPki.Text.Utf8

/-! ## Bytes by their values -/

theorem toNat_ofNat_of_lt {n : Nat} (h : n < 256) : (UInt8.ofNat n).toNat = n := by
  rw [UInt8.toNat_ofNat']
  omega

private theorem between_ofNat {n : Nat} {low high : UInt8} (h : n < 64)
    (hlow : low.toNat ≤ n + 0x80) (hhigh : n + 0x80 ≤ high.toNat) :
    (low ≤ UInt8.ofNat (n + 0x80) && UInt8.ofNat (n + 0x80) ≤ high : Bool) = true := by
  have hvalue : (UInt8.ofNat (n + 0x80)).toNat = n + 0x80 := toNat_ofNat_of_lt (by omega)
  rw [Bool.and_eq_true, decide_eq_true_eq, decide_eq_true_eq, UInt8.le_iff_toNat_le,
    UInt8.le_iff_toNat_le, hvalue]
  exact ⟨hlow, hhigh⟩

private theorem isContinuation_ofNat {n : Nat} (h : n < 64) :
    isContinuation (UInt8.ofNat (n + 0x80)) = true :=
  between_ofNat h (show 0x80 ≤ _ by omega) (show _ ≤ 0xBF by omega)

theorem front_eq (b : UInt8) (bs : List UInt8) :
    front b bs =
      if b.toNat < 0x80 then .char (Char.ofNat b.toNat) bs
      else if b.toNat < 0xC2 then .illFormed bs
      else if b.toNat < 0xE0 then frontOfTwo b bs
      else if b.toNat = 0xE0 then frontOfThree b 0xA0 0xBF bs
      else if b.toNat = 0xED then frontOfThree b 0x80 0x9F bs
      else if b.toNat < 0xF0 then frontOfThree b 0x80 0xBF bs
      else if b.toNat = 0xF0 then frontOfFour b 0x90 0xBF bs
      else if b.toNat < 0xF4 then frontOfFour b 0x80 0xBF bs
      else if b.toNat = 0xF4 then frontOfFour b 0x80 0x8F bs
      else .illFormed bs := by
  simp only [front, UInt8.lt_iff_toNat_lt, beq_iff_eq, ← UInt8.toNat_inj, UInt8.reduceToNat]

/-! ## Characters of one to four bytes -/

private theorem front_of_one {v : Nat} (h : v ≤ 0x7F) (bs : List UInt8) :
    front (UInt8.ofNat v) bs = .char (Char.ofNat v) bs := by
  rw [front_eq, toNat_ofNat_of_lt (by omega), if_pos (by omega)]

private theorem front_of_two {v : Nat} (h : 0x7F < v) (h' : v ≤ 0x7FF) (bs : List UInt8) :
    front (UInt8.ofNat (v / 64 % 0x20 + 0xC0)) (UInt8.ofNat (v % 0x40 + 0x80) :: bs) =
      .char (Char.ofNat v) bs := by
  have hvalue : (v / 64 % 0x20 + 0xC0 - 0xC0) * 64 + (v % 0x40 + 0x80 - 0x80) = v := by omega
  have hb : (UInt8.ofNat (v / 64 % 0x20 + 0xC0)).toNat = v / 64 % 0x20 + 0xC0 :=
    toNat_ofNat_of_lt (by omega)
  rw [front_eq, hb, if_neg (by omega), if_neg (by omega), if_pos (by omega), frontOfTwo,
    if_pos (isContinuation_ofNat (by omega)), hb, toNat_ofNat_of_lt (by omega), hvalue]

private theorem frontOfThree_encoded {v : Nat} {low high : UInt8} (hv : v ≤ 0xFFFF)
    (hlow : low.toNat ≤ v / 64 % 0x40 + 0x80) (hhigh : v / 64 % 0x40 + 0x80 ≤ high.toNat)
    (bs : List UInt8) :
    frontOfThree (UInt8.ofNat (v / 4096 % 0x10 + 0xE0)) low high
        (UInt8.ofNat (v / 64 % 0x40 + 0x80) :: UInt8.ofNat (v % 0x40 + 0x80) :: bs) =
      .char (Char.ofNat v) bs := by
  have hvalue : (v / 4096 % 0x10 + 0xE0 - 0xE0) * 4096 + (v / 64 % 0x40 + 0x80 - 0x80) * 64 +
      (v % 0x40 + 0x80 - 0x80) = v := by omega
  rw [frontOfThree, if_pos (between_ofNat (by omega) hlow hhigh)]
  show (if isContinuation (UInt8.ofNat (v % 0x40 + 0x80)) then _ else _ : Front) = _
  rw [if_pos (isContinuation_ofNat (by omega)), toNat_ofNat_of_lt (by omega),
    toNat_ofNat_of_lt (by omega), toNat_ofNat_of_lt (by omega), hvalue]

private theorem front_of_three {v : Nat} (h : 0x7FF < v) (h' : v ≤ 0xFFFF)
    (hscalar : v < 0xD800 ∨ 0xDFFF < v) (bs : List UInt8) :
    front (UInt8.ofNat (v / 4096 % 0x10 + 0xE0))
        (UInt8.ofNat (v / 64 % 0x40 + 0x80) :: UInt8.ofNat (v % 0x40 + 0x80) :: bs) =
      .char (Char.ofNat v) bs := by
  have hb : (UInt8.ofNat (v / 4096 % 0x10 + 0xE0)).toNat = v / 4096 % 0x10 + 0xE0 :=
    toNat_ofNat_of_lt (by omega)
  rw [front_eq, hb, if_neg (by omega), if_neg (by omega), if_neg (by omega)]
  by_cases hfirst : v / 4096 % 0x10 + 0xE0 = 0xE0
  · rw [if_pos hfirst]
    exact frontOfThree_encoded h' (show 0xA0 ≤ _ by omega) (show _ ≤ 0xBF by omega) bs
  · rw [if_neg hfirst]
    by_cases hbefore : v / 4096 % 0x10 + 0xE0 = 0xED
    · rw [if_pos hbefore]
      exact frontOfThree_encoded h' (show 0x80 ≤ _ by omega) (show _ ≤ 0x9F by omega) bs
    · rw [if_neg hbefore, if_pos (by omega)]
      exact frontOfThree_encoded h' (show 0x80 ≤ _ by omega) (show _ ≤ 0xBF by omega) bs

private theorem frontOfFour_encoded {v : Nat} {low high : UInt8} (hv : v < 0x110000)
    (hlow : low.toNat ≤ v / 4096 % 0x40 + 0x80) (hhigh : v / 4096 % 0x40 + 0x80 ≤ high.toNat)
    (bs : List UInt8) :
    frontOfFour (UInt8.ofNat (v / 262144 % 0x08 + 0xF0)) low high
        (UInt8.ofNat (v / 4096 % 0x40 + 0x80) :: UInt8.ofNat (v / 64 % 0x40 + 0x80) ::
          UInt8.ofNat (v % 0x40 + 0x80) :: bs) =
      .char (Char.ofNat v) bs := by
  have hvalue : (v / 262144 % 0x08 + 0xF0 - 0xF0) * 262144 +
      (v / 4096 % 0x40 + 0x80 - 0x80) * 4096 + (v / 64 % 0x40 + 0x80 - 0x80) * 64 +
      (v % 0x40 + 0x80 - 0x80) = v := by omega
  rw [frontOfFour, if_pos (between_ofNat (by omega) hlow hhigh)]
  show (if isContinuation (UInt8.ofNat (v / 64 % 0x40 + 0x80)) then
    (if isContinuation (UInt8.ofNat (v % 0x40 + 0x80)) then _ else _ : Front) else _ : Front) = _
  rw [if_pos (isContinuation_ofNat (by omega)), if_pos (isContinuation_ofNat (by omega)),
    toNat_ofNat_of_lt (by omega), toNat_ofNat_of_lt (by omega), toNat_ofNat_of_lt (by omega),
    toNat_ofNat_of_lt (by omega), hvalue]

private theorem front_of_four {v : Nat} (h : 0xFFFF < v) (h' : v < 0x110000) (bs : List UInt8) :
    front (UInt8.ofNat (v / 262144 % 0x08 + 0xF0))
        (UInt8.ofNat (v / 4096 % 0x40 + 0x80) :: UInt8.ofNat (v / 64 % 0x40 + 0x80) ::
          UInt8.ofNat (v % 0x40 + 0x80) :: bs) =
      .char (Char.ofNat v) bs := by
  have hb : (UInt8.ofNat (v / 262144 % 0x08 + 0xF0)).toNat = v / 262144 % 0x08 + 0xF0 :=
    toNat_ofNat_of_lt (by omega)
  rw [front_eq, hb, if_neg (by omega), if_neg (by omega), if_neg (by omega), if_neg (by omega),
    if_neg (by omega), if_neg (by omega)]
  by_cases hfirst : v / 262144 % 0x08 + 0xF0 = 0xF0
  · rw [if_pos hfirst]
    exact frontOfFour_encoded h' (show 0x90 ≤ _ by omega) (show _ ≤ 0xBF by omega) bs
  · rw [if_neg hfirst]
    by_cases hbefore : v / 262144 % 0x08 + 0xF0 < 0xF4
    · rw [if_pos hbefore]
      exact frontOfFour_encoded h' (show 0x80 ≤ _ by omega) (show _ ≤ 0xBF by omega) bs
    · rw [if_neg hbefore, if_pos (by omega)]
      exact frontOfFour_encoded h' (show 0x80 ≤ _ by omega) (show _ ≤ 0x8F by omega) bs

/-! ## Texts -/

/-- The first character of a text stands at the front of its bytes. -/
theorem front_utf8EncodeChar (c : Char) (bs : List UInt8) :
    ∃ b rest, String.utf8EncodeChar c ++ bs = b :: rest ∧ front b rest = .char c bs := by
  have hscalar : c.val.toNat < 0xD800 ∨ 0xDFFF < c.val.toNat ∧ c.val.toNat < 0x110000 := c.valid
  have hchar : Front.char (Char.ofNat c.val.toNat) bs = .char c bs :=
    congrArg (Front.char · bs) (Char.ofNat_toNat c)
  simp only [String.utf8EncodeChar]
  by_cases h₁ : c.val.toNat ≤ 0x7F
  · rw [if_pos h₁]
    exact ⟨_, _, rfl, (front_of_one h₁ bs).trans hchar⟩
  · rw [if_neg h₁]
    by_cases h₂ : c.val.toNat ≤ 0x7FF
    · rw [if_pos h₂]
      exact ⟨_, _, rfl, (front_of_two (Nat.lt_of_not_le h₁) h₂ bs).trans hchar⟩
    · rw [if_neg h₂]
      by_cases h₃ : c.val.toNat ≤ 0xFFFF
      · rw [if_pos h₃]
        exact ⟨_, _, rfl, (front_of_three (Nat.lt_of_not_le h₂) h₃ (by omega) bs).trans hchar⟩
      · rw [if_neg h₃]
        exact ⟨_, _, rfl, (front_of_four (Nat.lt_of_not_le h₃) (by omega) bs).trans hchar⟩

theorem decode?_utf8EncodeChar_append (c : Char) (bs : List UInt8) :
    decode? (String.utf8EncodeChar c ++ bs) = (decode? bs).map (c :: ·) := by
  obtain ⟨b, rest, hbytes, hfront⟩ := front_utf8EncodeChar c bs
  rw [hbytes, decode?]
  split
  · next c' rest' h =>
    rw [hfront] at h
    cases h
    rfl
  · next h =>
    rw [hfront] at h
    cases h

theorem decode?_flatMap_utf8EncodeChar (cs : List Char) :
    decode? (cs.flatMap String.utf8EncodeChar) = some cs := by
  induction cs with
  | nil => rw [List.flatMap_nil, decode?]
  | cons c cs ih => rw [List.flatMap_cons, decode?_utf8EncodeChar_append, ih, Option.map_some]

/-- The bytes of a text are decoded to that text. -/
theorem text?_encode (s : String) : text? (encode s) = some s := by
  rw [text?, encode, decode?_flatMap_utf8EncodeChar, Option.map_some, String.ofList_toList]

/-! ## Bytes of characters -/

theorem utf8EncodeChar_of_ascii {c : Char} (h : c.toNat < 0x80) :
    String.utf8EncodeChar c = [UInt8.ofNat c.toNat] := by
  have hle : c.val.toNat ≤ 0x7F := Nat.le_of_lt_succ h
  simp only [String.utf8EncodeChar, if_pos hle]
  rfl

theorem toNat_of_mem_utf8EncodeChar {c : Char} (h : c.toNat < 0x80) {b : UInt8}
    (hb : b ∈ String.utf8EncodeChar c) : b.toNat = c.toNat := by
  rw [utf8EncodeChar_of_ascii h, List.mem_singleton] at hb
  rw [hb]
  exact toNat_ofNat_of_lt (by omega)

/-- Outside ASCII no byte is that of an ASCII character. -/
theorem le_of_mem_utf8EncodeChar {c : Char} (hc : 0x80 ≤ c.toNat) {b : UInt8}
    (hb : b ∈ String.utf8EncodeChar c) : 0x80 ≤ b.toNat := by
  have hscalar : c.val.toNat < 0xD800 ∨ 0xDFFF < c.val.toNat ∧ c.val.toNat < 0x110000 := c.valid
  have hc : 0x80 ≤ c.val.toNat := hc
  simp only [String.utf8EncodeChar] at hb
  rw [if_neg (by omega)] at hb
  split at hb
  · simp only [List.mem_cons, List.not_mem_nil, or_false] at hb
    rcases hb with rfl | rfl <;> rw [UInt8.toNat_ofNat'] <;> omega
  · split at hb
    · simp only [List.mem_cons, List.not_mem_nil, or_false] at hb
      rcases hb with rfl | rfl | rfl <;> rw [UInt8.toNat_ofNat'] <;> omega
    · simp only [List.mem_cons, List.not_mem_nil, or_false] at hb
      rcases hb with rfl | rfl | rfl | rfl <;> rw [UInt8.toNat_ofNat'] <;> omega

end VaultPki.Text.Utf8

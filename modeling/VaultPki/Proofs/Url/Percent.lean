import VaultPki.Proofs.Text.Utf8
import VaultPki.Url.Percent

/-!
# Text that is encoded

Encoding yields characters that need no encoding: those that were kept, the percent sign and the
digits of codes. Decoding undoes it for a text without percent signs, and two such texts are never
encoded alike.
-/

namespace VaultPki.Url.Percent

variable {set : Char → Bool} {cs : List Char}

/-- The characters in which codes are written. -/
def codeChars : List Char :=
  "%0123456789ABCDEF".toList

/-- Whether a character is written as it is. -/
def IsKept (set : Char → Bool) (c : Char) : Prop :=
  set c = false ∧ c.toNat < 0x80

theorem encodeChar_of_kept {c : Char} (h : IsKept set c) : encodeChar set c = [c] := by
  obtain ⟨hset, hascii⟩ := h
  rw [encodeChar, if_neg]
  simp only [hset, Bool.false_or, decide_eq_true_eq]
  omega

theorem encode_of_kept (h : ∀ c ∈ cs, IsKept set c) : encode set cs = cs := by
  induction cs with
  | nil => rfl
  | cons c cs ih =>
    have hc : encodeChar set c = [c] := encodeChar_of_kept (h c List.mem_cons_self)
    have hcs : encode set cs = cs := ih fun x hx => h x (List.mem_cons_of_mem c hx)
    rw [encode] at hcs
    rw [encode, List.flatMap_cons, hc, hcs]
    rfl

private theorem upperHexDigit_mem : ∀ n < 16, Text.Ascii.upperHexDigit n ∈ codeChars := by
  decide

theorem mem_codeChars_of_mem_encodeByte {b : UInt8} {c : Char} (h : c ∈ encodeByte b) :
    c ∈ codeChars := by
  have hlt := b.toNat_lt
  simp only [encodeByte, List.mem_cons, List.not_mem_nil, or_false] at h
  rcases h with rfl | rfl | rfl
  · decide
  · exact upperHexDigit_mem _ (by omega)
  · exact upperHexDigit_mem _ (by omega)

/-- A character of an encoded text was kept or belongs to a code. -/
theorem mem_encode {c : Char} (h : c ∈ encode set cs) :
    (c ∈ cs ∧ IsKept set c) ∨ c ∈ codeChars := by
  rw [encode, List.mem_flatMap] at h
  obtain ⟨x, hx, hc⟩ := h
  rw [encodeChar] at hc
  split at hc
  · obtain ⟨b, -, hb⟩ := List.mem_flatMap.1 hc
    exact .inr (mem_codeChars_of_mem_encodeByte hb)
  · next hkept =>
    rw [List.mem_singleton.1 hc]
    simp only [Bool.or_eq_true, decide_eq_true_eq, not_or, Bool.not_eq_true, Nat.not_le] at hkept
    exact .inl ⟨hx, hkept⟩

theorem isKept_of_mem_codeChars {c : Char} (h : c ∈ codeChars) : IsKept pathSet c := by
  have hall : codeChars.all (fun c => !pathSet c && decide (c.toNat < 0x80)) = true := by decide
  have hc := List.all_eq_true.1 hall c h
  rw [Bool.and_eq_true, Bool.not_eq_true', decide_eq_true_eq] at hc
  exact hc

theorem isKept_of_mem_encode {c : Char} (h : c ∈ encode pathSet cs) : IsKept pathSet c := by
  rcases mem_encode h with ⟨-, hkept⟩ | hcode
  · exact hkept
  · exact isKept_of_mem_codeChars hcode

/-! ## Decoding -/

theorem decode_cons_of_ne {a : UInt8} (h : a ≠ 37) (bs : List UInt8) :
    decode (a :: bs) = a :: decode bs := by
  cases bs with
  | nil => rfl
  | cons b bs =>
    cases bs with
    | nil => rfl
    | cons c bs => rw [decode, if_neg (by simpa using h)]

theorem decode_code {high low : UInt8} {h l : Nat} (hhigh : Text.Ascii.hexValue? high = some h)
    (hlow : Text.Ascii.hexValue? low = some l) (bs : List UInt8) :
    decode (37 :: high :: low :: bs) = UInt8.ofNat (16 * h + l) :: decode bs := by
  rw [decode, if_pos (by decide), hhigh, hlow]

private theorem hexValue?_upperHexDigit : ∀ n < 16,
    (String.utf8EncodeChar (Text.Ascii.upperHexDigit n)).map Text.Ascii.hexValue? = [some n] := by
  decide

theorem exists_byte_of_upperHexDigit {n : Nat} (h : n < 16) :
    ∃ b, String.utf8EncodeChar (Text.Ascii.upperHexDigit n) = [b] ∧
      Text.Ascii.hexValue? b = some n := by
  have hbytes := hexValue?_upperHexDigit n h
  rw [List.map_eq_singleton_iff] at hbytes
  exact hbytes

theorem decode_encodeByte (b : UInt8) (bs : List UInt8) :
    decode ((encodeByte b).flatMap String.utf8EncodeChar ++ bs) = b :: decode bs := by
  have hlt := b.toNat_lt
  obtain ⟨high, hhigh, hhighValue⟩ :=
    exists_byte_of_upperHexDigit (show b.toNat / 16 < 16 by omega)
  obtain ⟨low, hlow, hlowValue⟩ := exists_byte_of_upperHexDigit (show b.toNat % 16 < 16 by omega)
  have hbytes : (encodeByte b).flatMap String.utf8EncodeChar = [37, high, low] := by
    rw [encodeByte, List.flatMap_cons, List.flatMap_cons, List.flatMap_cons, hhigh, hlow]
    rfl
  have hb : 16 * (b.toNat / 16) + b.toNat % 16 = b.toNat := by omega
  rw [hbytes, List.cons_append, List.cons_append, List.cons_append, List.nil_append,
    decode_code hhighValue hlowValue, hb, UInt8.ofNat_toNat]

theorem decode_flatMap_encodeByte (codes bs : List UInt8) :
    decode ((codes.flatMap encodeByte).flatMap String.utf8EncodeChar ++ bs) =
      codes ++ decode bs := by
  induction codes with
  | nil => rfl
  | cons b codes ih =>
    rw [List.flatMap_cons, List.flatMap_append, List.append_assoc, decode_encodeByte, ih,
      List.cons_append]

theorem decode_encodeChar {c : Char} (h : c ≠ '%') (bs : List UInt8) :
    decode ((encodeChar set c).flatMap String.utf8EncodeChar ++ bs) =
      String.utf8EncodeChar c ++ decode bs := by
  rw [encodeChar]
  split
  · exact decode_flatMap_encodeByte _ _
  · next hkept =>
    have hascii : c.toNat < 0x80 := by
      simp only [Bool.or_eq_true, decide_eq_true_eq, not_or, Nat.not_le] at hkept
      exact hkept.2
    have hbyte := Text.Utf8.utf8EncodeChar_of_ascii hascii
    have hne : UInt8.ofNat c.toNat ≠ 37 := by
      intro heq
      have hnat : c.toNat = 37 := by
        have := congrArg UInt8.toNat heq
        rwa [Text.Utf8.toNat_ofNat_of_lt (by omega)] at this
      exact h (Char.toNat_inj.1 hnat)
    rw [List.flatMap_cons, List.flatMap_nil, List.append_nil, hbyte, List.singleton_append,
      decode_cons_of_ne hne, List.singleton_append]

/-- Decoding gives back the bytes of a text without percent signs. -/
theorem decode_encode (h : '%' ∉ cs) :
    decode ((encode set cs).flatMap String.utf8EncodeChar) =
      cs.flatMap String.utf8EncodeChar := by
  induction cs with
  | nil => rfl
  | cons c cs ih =>
    rw [List.mem_cons, not_or] at h
    have ih := ih h.2
    rw [encode] at ih
    rw [encode, List.flatMap_cons, List.flatMap_append, decode_encodeChar (Ne.symm h.1), ih,
      List.flatMap_cons]

theorem eq_of_flatMap_utf8EncodeChar_eq {cs cs' : List Char}
    (h : cs.flatMap String.utf8EncodeChar = cs'.flatMap String.utf8EncodeChar) : cs = cs' := by
  have hdecode := congrArg Text.Utf8.decode? h
  rw [Text.Utf8.decode?_flatMap_utf8EncodeChar, Text.Utf8.decode?_flatMap_utf8EncodeChar] at hdecode
  exact Option.some.inj hdecode

theorem encode_inj {cs' : List Char} (h : '%' ∉ cs) (h' : '%' ∉ cs') :
    encode set cs = encode set cs' ↔ cs = cs' := by
  constructor
  · intro heq
    have hdecode : decode ((encode set cs).flatMap String.utf8EncodeChar) =
        decode ((encode set cs').flatMap String.utf8EncodeChar) := by rw [heq]
    rw [decode_encode h, decode_encode h'] at hdecode
    exact eq_of_flatMap_utf8EncodeChar_eq hdecode
  · rintro rfl
    rfl

end VaultPki.Url.Percent

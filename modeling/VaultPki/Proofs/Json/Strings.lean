import VaultPki.Json.Reader
import VaultPki.Json.Writer
import VaultPki.Proofs.Text.Utf8

/-!
# Strings in JSON texts

A string that was written is skimmed to its closing quote and read as what it was. Escapes stand for
one character each; the bytes of all other characters are no quotes, backslashes or controls.
-/

namespace VaultPki.Json

/-- The bytes of characters. -/
def bytes (cs : List Char) : List UInt8 :=
  cs.flatMap String.utf8EncodeChar

theorem bytes_cons (c : Char) (cs : List Char) :
    bytes (c :: cs) = String.utf8EncodeChar c ++ bytes cs := List.flatMap_cons

theorem bytes_append (cs cs' : List Char) : bytes (cs ++ cs') = bytes cs ++ bytes cs' :=
  List.flatMap_append

theorem length_le_length_bytes (cs : List Char) : cs.length ≤ (bytes cs).length := by
  induction cs with
  | nil => exact Nat.le_refl 0
  | cons c cs ih =>
    have hc : 0 < c.utf8Size := c.utf8Size_pos
    rw [bytes_cons, List.length_append, String.length_utf8EncodeChar, List.length_cons]
    omega

namespace Reader

/-! ## Bytes that stand for themselves -/

/-- Whether a byte inside a string stands for itself. -/
def IsPlain (b : UInt8) : Prop :=
  b.toNat ≠ 34 ∧ b.toNat ≠ 92 ∧ 32 ≤ b.toNat

variable {b : UInt8}

theorem IsPlain.not_special (h : IsPlain b) :
    (b == 34) = false ∧ (b == 92) = false ∧ ¬b < 32 := by
  obtain ⟨hquote, hback, hcontrol⟩ := h
  refine ⟨beq_eq_false_iff_ne.2 ?_, beq_eq_false_iff_ne.2 ?_, UInt8.not_lt.2 hcontrol⟩
  · rintro rfl
    exact hquote rfl
  · rintro rfl
    exact hback rfl

theorem skimString_plain (h : IsPlain b) (s : List UInt8) :
    skimString (b :: s) = skimString s := by
  obtain ⟨hquote, hback, hcontrol⟩ := h.not_special
  rw [skimString, hquote, hback, if_neg Bool.false_ne_true, if_neg Bool.false_ne_true,
    if_neg hcontrol]

theorem readString_plain (h : IsPlain b) (s : List UInt8) :
    readString (b :: s) = (readString s).map (b :: ·) := by
  obtain ⟨hquote, hback, hcontrol⟩ := h.not_special
  rw [readString, hquote, hback, if_neg Bool.false_ne_true, if_neg Bool.false_ne_true,
    if_neg hcontrol]

theorem skimString_plain_append {bs : List UInt8} (h : ∀ b ∈ bs, IsPlain b) (s : List UInt8) :
    skimString (bs ++ s) = skimString s := by
  induction bs with
  | nil => rfl
  | cons b bs ih =>
    rw [List.cons_append, skimString_plain (h b List.mem_cons_self),
      ih fun x hx => h x (List.mem_cons_of_mem b hx)]

theorem readString_plain_append {bs : List UInt8} (h : ∀ b ∈ bs, IsPlain b) (s : List UInt8) :
    readString (bs ++ s) = (readString s).map (bs ++ ·) := by
  induction bs with
  | nil =>
    rw [List.nil_append]
    cases readString s <;> rfl
  | cons b bs ih =>
    rw [List.cons_append, readString_plain (h b List.mem_cons_self),
      ih fun x hx => h x (List.mem_cons_of_mem b hx)]
    cases readString s <;> rfl

theorem isPlain_of_mem_utf8EncodeChar {c : Char} (hquote : c ≠ '"') (hback : c ≠ '\\')
    (hcontrol : 32 ≤ c.toNat) (hb : b ∈ String.utf8EncodeChar c) : IsPlain b := by
  by_cases hc : c.toNat < 0x80
  · have hvalue : b.toNat = c.toNat := Text.Utf8.toNat_of_mem_utf8EncodeChar hc hb
    rw [IsPlain, hvalue]
    refine ⟨fun h => hquote ?_, fun h => hback ?_, hcontrol⟩
    · rw [← Char.ofNat_toNat c, h]
    · rw [← Char.ofNat_toNat c, h]
  · have hle := Text.Utf8.le_of_mem_utf8EncodeChar (Nat.le_of_not_lt hc) hb
    exact ⟨by omega, by omega, by omega⟩

/-! ## Escapes -/

/-- Whether bytes behind a backslash are the escape of a character, whatever follows them. -/
def IsEscapeOf (c : Char) (t : List UInt8) : Prop :=
  ∀ s, skimEscape (t ++ s) = .ok t.length ∧
    readEscape (t ++ s) = .ok (String.utf8EncodeChar c, t.length)

theorem isEscapeOf_short {c : Char} {e : UInt8} (h : isShortEscape e = true)
    (hc : String.utf8EncodeChar c = [shortEscape e]) : IsEscapeOf c [e] := by
  intro s
  rw [List.singleton_append, skimEscape, readEscape, if_pos h, if_pos h, hc]
  exact ⟨rfl, rfl⟩

private theorem bytes_hexDigit : ∀ n < 16,
    (String.utf8EncodeChar (Text.Ascii.hexDigit n)).map Text.Ascii.hexValue? = [some n] := by
  decide

theorem exists_byte_of_hexDigit {n : Nat} (h : n < 16) :
    ∃ b, String.utf8EncodeChar (Text.Ascii.hexDigit n) = [b] ∧
      Text.Ascii.hexValue? b = some n := by
  have hbytes := bytes_hexDigit n h
  rw [List.map_eq_singleton_iff] at hbytes
  exact hbytes

theorem isEscapeOf_control {c : Char} (h : c.toNat < 32) {high low : UInt8}
    (hhigh : Text.Ascii.hexValue? high = some (c.toNat / 16))
    (hlow : Text.Ascii.hexValue? low = some (c.toNat % 16)) :
    IsEscapeOf c [117, 48, 48, high, low] := by
  intro s
  have hhex : fourHex (48 :: 48 :: high :: low :: s) = .ok c.toNat := by
    have hzero : Text.Ascii.hexValue? 48 = some 0 := rfl
    have hvalue : ((0 * 16 + 0) * 16 + c.toNat / 16) * 16 + c.toNat % 16 = c.toNat := by omega
    simp only [fourHex, hzero, hhigh, hlow, hvalue]
  constructor
  · show (fourHex (48 :: 48 :: high :: low :: s)).map (fun _ => 5) = _
    rw [hhex]
    rfl
  · have hshort : isShortEscape 117 = false := rfl
    have hlowHalf : (decide (0xDC00 ≤ c.toNat) && decide (c.toNat ≤ 0xDFFF)) = false := by
      simp
      omega
    have hhighHalf : (decide (0xD800 ≤ c.toNat) && decide (c.toNat ≤ 0xDBFF)) = false := by
      simp
      omega
    simp only [List.cons_append, List.nil_append, readEscape, hshort, hhex, hlowHalf, hhighHalf,
      beq_self_eq_true, Bool.false_eq_true, if_true, if_false, Char.ofNat_toNat]
    rfl

/-- A character in a string is written as it is or as an escape. -/
theorem escape_cases (c : Char) :
    (escape c = [c] ∧ ∀ b ∈ String.utf8EncodeChar c, IsPlain b) ∨
      ∃ t, bytes (escape c) = 92 :: t ∧ IsEscapeOf c t := by
  by_cases hquote : c = '"'
  · subst hquote
    exact .inr ⟨[34], rfl, isEscapeOf_short rfl rfl⟩
  by_cases hback : c = '\\'
  · subst hback
    exact .inr ⟨[92], rfl, isEscapeOf_short rfl rfl⟩
  by_cases hline : c = '\n'
  · subst hline
    exact .inr ⟨[110], rfl, isEscapeOf_short rfl rfl⟩
  by_cases hreturn : c = '\r'
  · subst hreturn
    exact .inr ⟨[114], rfl, isEscapeOf_short rfl rfl⟩
  by_cases htab : c = '\t'
  · subst htab
    exact .inr ⟨[116], rfl, isEscapeOf_short rfl rfl⟩
  by_cases hbackspace : c.toNat = 8
  · obtain rfl : c = Char.ofNat 8 := by rw [← Char.ofNat_toNat c, hbackspace]
    exact .inr ⟨[98], rfl, isEscapeOf_short rfl rfl⟩
  by_cases hfeed : c.toNat = 12
  · obtain rfl : c = Char.ofNat 12 := by rw [← Char.ofNat_toNat c, hfeed]
    exact .inr ⟨[102], rfl, isEscapeOf_short rfl rfl⟩
  rw [escape, if_neg hquote, if_neg hback, if_neg hline, if_neg hreturn, if_neg htab,
    if_neg hbackspace, if_neg hfeed]
  by_cases hcontrol : c.toNat < 32
  · rw [if_pos hcontrol]
    obtain ⟨high, hhigh, hhighValue⟩ := exists_byte_of_hexDigit (n := c.toNat / 16) (by omega)
    obtain ⟨low, hlow, hlowValue⟩ := exists_byte_of_hexDigit (n := c.toNat % 16) (by omega)
    refine .inr ⟨[117, 48, 48, high, low], ?_, isEscapeOf_control hcontrol hhighValue hlowValue⟩
    simp only [bytes_cons, hhigh, hlow]
    rfl
  · rw [if_neg hcontrol]
    exact .inl ⟨rfl, fun b => isPlain_of_mem_utf8EncodeChar hquote hback (Nat.le_of_not_lt hcontrol)⟩

theorem bytes_singleton (c : Char) : bytes [c] = String.utf8EncodeChar c :=
  List.append_nil _

theorem skimString_escape (c : Char) (s : List UInt8) :
    skimString (bytes (escape c) ++ s) = skimString s := by
  rcases escape_cases c with ⟨hescape, hplain⟩ | ⟨t, hbytes, ht⟩
  · rw [hescape, bytes_singleton, skimString_plain_append hplain]
  · rw [hbytes, List.cons_append, skimString, if_neg (by decide), if_pos (by decide), (ht s).1]
    show skimString ((t ++ s).drop t.length) = _
    rw [List.drop_left]

theorem readString_escape (c : Char) (s : List UInt8) :
    readString (bytes (escape c) ++ s) =
      (readString s).map (String.utf8EncodeChar c ++ ·) := by
  rcases escape_cases c with ⟨hescape, hplain⟩ | ⟨t, hbytes, ht⟩
  · rw [hescape, bytes_singleton, readString_plain_append hplain]
  · rw [hbytes, List.cons_append, readString, if_neg (by decide), if_pos (by decide), (ht s).2]
    show (readString ((t ++ s).drop t.length)).map (String.utf8EncodeChar c ++ ·) = _
    rw [List.drop_left]

/-! ## Whole strings -/

theorem skimString_written (cs : List Char) (s : List UInt8) :
    skimString (bytes (cs.flatMap escape) ++ 34 :: s) = .ok s := by
  induction cs with
  | nil => rw [List.flatMap_nil, bytes, List.flatMap_nil, List.nil_append, skimString,
      if_pos (by decide)]
  | cons c cs ih =>
    rw [List.flatMap_cons, bytes_append, List.append_assoc, skimString_escape, ih]

theorem readString_written (cs : List Char) (s : List UInt8) :
    readString (bytes (cs.flatMap escape) ++ 34 :: s) = .ok (bytes cs) := by
  induction cs with
  | nil => rw [List.flatMap_nil, bytes, List.flatMap_nil, List.nil_append, readString,
      if_pos (by decide)]
  | cons c cs ih =>
    rw [List.flatMap_cons, bytes_append, List.append_assoc, readString_escape, ih, bytes_cons]
    rfl

theorem bytes_writeString (s : String) (rest : List UInt8) :
    bytes (writeString s) ++ rest = 34 :: (bytes (s.toList.flatMap escape) ++ 34 :: rest) := by
  have hquote : String.utf8EncodeChar '"' = [34] := rfl
  rw [writeString, List.cons_append, bytes_cons, bytes_append, bytes_singleton, hquote]
  simp

/-- A string that was written is read as what it was. -/
theorem string_written (s : String) (rest : List UInt8) :
    string (bytes (s.toList.flatMap escape) ++ 34 :: rest) = .ok (.ok s, rest) := by
  have htext : Text.Utf8.text? (bytes s.toList) = some s := Text.Utf8.text?_encode s
  have hcontent : stringContent (bytes (s.toList.flatMap escape) ++ 34 :: rest) = .ok s := by
    simp only [stringContent, readString_written, htext]
  simp only [string, skimString_written, hcontent]

end Reader

end VaultPki.Json

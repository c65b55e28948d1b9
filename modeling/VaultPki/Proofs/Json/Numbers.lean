import VaultPki.Proofs.Attempt
import VaultPki.Proofs.Json.Integers
import VaultPki.Proofs.Text.Decimal

/-!
# Numbers that are no integers

A number is kept as it is written if it is not read as an integer. What is kept then is the text of
no integer of 64 bits: it has a point or an exponent, is too far from zero, or is a zero with a
minus sign.
-/

namespace VaultPki.Json.Reader

open Text.Ascii (IsDecimal decimal?)

variable {s rest : List UInt8}

/-! ## Parts of numbers -/

/-- Whether bytes hold a point or the letter of an exponent. -/
def IsMarked (bs : List UInt8) : Prop :=
  ∃ b ∈ bs, b = 46 ∨ b = 101 ∨ b = 69

theorem wholePart_eq_ok {whole : List UInt8} (h : wholePart s = .ok (whole, rest)) :
    s = whole ++ rest ∧ whole ≠ [] ∧ ∀ b ∈ whole, isDigit b = true := by
  cases s with
  | nil => cases h
  | cons d s =>
    by_cases hd : d = 48
    · subst hd
      have hzero : ∀ b ∈ [(48 : UInt8)], isDigit b = true := List.forall_mem_singleton.2 rfl
      cases s with
      | nil =>
        cases h
        exact ⟨rfl, List.cons_ne_nil _ _, hzero⟩
      | cons c s =>
        simp only [wholePart, beq_self_eq_true, if_true] at h
        split at h
        · cases h
        · cases h
          exact ⟨rfl, List.cons_ne_nil _ _, hzero⟩
    · simp only [wholePart, beq_iff_eq, hd, if_false] at h
      split at h
      · next hdigit =>
        cases h
        refine ⟨?_, List.cons_ne_nil _ _, List.forall_mem_cons.2 ⟨hdigit, fun b hb => ?_⟩⟩
        · rw [List.cons_append, List.takeWhile_append_dropWhile]
        · exact List.mem_takeWhile_imp hb
      · cases h

theorem fractionPart_eq_ok {fraction : Option (List UInt8)}
    (h : fractionPart s = .ok (fraction, rest)) :
    ∃ front, s = front ++ rest ∧ (fraction = none ∧ front = [] ∨ IsMarked front) := by
  cases s with
  | nil =>
    cases h
    exact ⟨[], rfl, .inl ⟨rfl, rfl⟩⟩
  | cons p s =>
    simp only [fractionPart] at h
    split at h
    · next hp =>
      split at h
      · cases h
      · cases h
        have hpoint : p = 46 := by simpa using hp
        refine ⟨p :: s.takeWhile isDigit, ?_, .inr ⟨p, List.mem_cons_self, .inl hpoint⟩⟩
        rw [List.cons_append, List.takeWhile_append_dropWhile]
    · cases h
      exact ⟨[], rfl, .inl ⟨rfl, rfl⟩⟩

theorem exponentPart_eq_ok {exponent : Option (Bool × List UInt8)}
    (h : exponentPart s = .ok (exponent, rest)) :
    ∃ front, s = front ++ rest ∧ (exponent = none ∧ front = [] ∨ IsMarked front) := by
  cases s with
  | nil =>
    cases h
    exact ⟨[], rfl, .inl ⟨rfl, rfl⟩⟩
  | cons e s =>
    simp only [exponentPart] at h
    split at h
    · next he =>
      -- Between the letter and the digits there may be a sign.
      have hsuffix : rest <:+ s := by
        split at h
        · cases h
        · cases h
          refine (List.dropWhile_suffix _).trans ?_
          split
          · exact List.suffix_rfl
          · split
            · exact List.suffix_cons _ _
            · split
              · exact List.suffix_cons _ _
              · exact List.suffix_rfl
      obtain ⟨front, rfl⟩ := hsuffix
      exact ⟨e :: front, rfl, .inr ⟨e, List.mem_cons_self, .inr (by simpa using he)⟩⟩
    · cases h
      exact ⟨[], rfl, .inl ⟨rfl, rfl⟩⟩

/-- Whether bytes are written for a number: a minus sign for a negative one, digits, and behind them
nothing, or what has a point or the letter of an exponent. -/
structure IsWritten (n : Numeral) (front : List UInt8) : Prop where
  whole_ne_nil : n.whole ≠ []
  isDigit_whole : ∀ b ∈ n.whole, isDigit b = true
  front_eq : ∃ tail, front = (if n.negative then [45] else []) ++ n.whole ++ tail ∧
    (n.fraction = none ∧ n.exponent = none ∧ tail = [] ∨ IsMarked tail)

theorem IsMarked.append_right {bs : List UInt8} (h : IsMarked bs) (behind : List UInt8) :
    IsMarked (bs ++ behind) := by
  obtain ⟨b, hb, hmark⟩ := h
  exact ⟨b, List.mem_append_left behind hb, hmark⟩

private theorem unsigned_eq_ok {n : Numeral} {negative : Bool}
    (h : (do
      let (whole, s) ← wholePart s
      let (fraction, s) ← fractionPart s
      let (exponent, s) ← exponentPart s
      return (⟨negative, whole, fraction, exponent⟩, s)) = Except.ok (n, rest)) :
    ∃ front, s = front ++ rest ∧ IsWritten n ((if negative then [45] else []) ++ front) := by
  obtain ⟨⟨whole, behind⟩, hwhole, h⟩ := Attempt.bind_eq_ok_iff.1 h
  obtain ⟨⟨fraction, behind'⟩, hfraction, h⟩ := Attempt.bind_eq_ok_iff.1 h
  obtain ⟨⟨exponent, end'⟩, hexponent, h⟩ := Attempt.bind_eq_ok_iff.1 h
  cases h
  obtain ⟨rfl, hne, hdigits⟩ := wholePart_eq_ok hwhole
  obtain ⟨point, rfl, hpoint⟩ := fractionPart_eq_ok hfraction
  obtain ⟨letter, rfl, hletter⟩ := exponentPart_eq_ok hexponent
  refine ⟨whole ++ (point ++ letter), by simp only [List.append_assoc], hne, hdigits,
    point ++ letter, by simp only [List.append_assoc], ?_⟩
  rcases hpoint with ⟨hnone, rfl⟩ | hmarked
  · rcases hletter with ⟨hnone', rfl⟩ | hmarked
    · exact .inl ⟨hnone, hnone', rfl⟩
    · exact .inr hmarked
  · exact .inr (hmarked.append_right letter)

theorem numeral_eq_ok {n : Numeral} (h : numeral s = .ok (n, rest)) :
    ∃ front, s = front ++ rest ∧ IsWritten n front := by
  unfold numeral at h
  cases s with
  | nil => exact unsigned_eq_ok h
  | cons b s =>
    by_cases hb : b = 45
    · simp only [hb, beq_self_eq_true, if_true] at h
      obtain ⟨front, rfl, hfront⟩ := unsigned_eq_ok h
      exact ⟨45 :: front, by rw [hb]; rfl, hfront⟩
    · simp only [beq_iff_eq, hb, if_false] at h
      exact unsigned_eq_ok h

/-! ## Texts of numbers -/

/-- The character that a byte of a number stands for. -/
def toChar (b : UInt8) : Char :=
  Char.ofNat b.toNat

theorem toNat_toChar (b : UInt8) : (toChar b).toNat = b.toNat := by
  have hlt : b.toNat < 256 := b.toNat_lt
  have hvalid : b.toNat.isValidChar := .inl (by omega)
  rw [toChar, Char.ofNat, dif_pos hvalid]
  rfl

theorem isDigit_toChar_iff {b : UInt8} : (toChar b).isDigit = true ↔ isDigit b = true := by
  rw [Char.isDigit_iff_toNat, toNat_toChar]
  simp only [isDigit, Bool.and_eq_true, decide_eq_true_eq, UInt8.le_iff_toNat_le]
  exact Iff.rfl

theorem ofDigitChars_map_toChar (ds : List UInt8) :
    Nat.ofDigitChars 10 (ds.map toChar) 0 = digitsValue ds := by
  rw [Nat.ofDigitChars_eq_foldl, List.foldl_map, digitsValue]
  congr
  funext n d
  rw [toNat_toChar]
  rfl

/-- What is read as a natural number consists of digits alone, which say which number it is. -/
theorem eq_of_decimal? {whole tail : List UInt8} {m : Nat}
    (h : decimal? ((whole ++ tail).map toChar) = some m) :
    ¬IsMarked tail ∧ (tail = [] → m = digitsValue whole) := by
  have hdigits := Text.Ascii.isDigit_of_decimal? h
  constructor
  · rintro ⟨b, hb, hmark⟩
    have hdigit := isDigit_toChar_iff.1
      (hdigits (toChar b) (List.mem_map_of_mem (List.mem_append_right whole hb)))
    rcases hmark with rfl | rfl | rfl <;> cases hdigit
  · rintro rfl
    have hne := Text.Ascii.ne_nil_of_decimal? h
    rw [Text.Ascii.decimal?_eq_some hne hdigits, List.append_nil, ofDigitChars_map_toChar] at h
    exact (Option.some.inj h).symm

theorem integer?_of_not_negative {n : Numeral} (hfraction : n.fraction = none)
    (hexponent : n.exponent = none) (hsign : n.negative = false)
    (hmax : digitsValue n.whole < UInt64.size) : n.integer? = some (digitsValue n.whole : Int) := by
  simp only [Numeral.integer?, hfraction, hexponent, hsign, Option.isNone_none, Bool.and_self,
    if_true, Bool.false_eq_true, if_false, hmax]

theorem integer?_of_negative {n : Numeral} (hfraction : n.fraction = none)
    (hexponent : n.exponent = none) (hsign : n.negative = true) (hpos : 0 < digitsValue n.whole)
    (hmin : Int64.minValue.toInt ≤ -(digitsValue n.whole : Int)) :
    n.integer? = some (-(digitsValue n.whole : Int)) := by
  simp only [Numeral.integer?, hfraction, hexponent, hsign, Option.isNone_none, Bool.and_self,
    if_true, hpos, hmin, decide_true]

/-- A number whose text is an integer of 64 bits is read as that integer. -/
theorem IsWritten.integer?_eq {n : Numeral} {front : List UInt8} {i : Int} (h : IsWritten n front)
    (hdecimal : IsDecimal (String.ofList (front.map toChar)) i) (hi : IsInRange i) :
    n.integer? = some i := by
  obtain ⟨tail, rfl, htail⟩ := h.front_eq
  have hdenotes := hdecimal.denotes
  rw [String.toList_ofList] at hdenotes
  cases hsign : n.negative with
  | true =>
    rw [hsign] at hdenotes hdecimal
    have hdenotes : Text.Ascii.signedDecimal? ('-' :: (n.whole ++ tail).map toChar) = some i :=
      hdenotes
    obtain ⟨m, hm, rfl⟩ := Option.map_eq_some_iff.1 hdenotes
    obtain ⟨hmarked, hvalue⟩ := eq_of_decimal? hm
    obtain ⟨hfraction, hexponent, rfl⟩ := htail.resolve_right hmarked
    obtain rfl := hvalue rfl
    -- A minus sign stands in front of no zero, as the text of zero has none.
    have hpos : 0 < digitsValue n.whole := by
      by_contra hnot
      rw [Nat.eq_zero_of_not_pos hnot] at hdecimal
      have hzero := congrArg String.toList (Text.Ascii.isDecimal_iff.1 hdecimal)
      rw [String.toList_ofList] at hzero
      exact absurd (List.cons.inj hzero).1 (by decide)
    exact integer?_of_negative hfraction hexponent hsign hpos hi.1
  | false =>
    rw [hsign] at hdenotes
    have hdenotes : Text.Ascii.signedDecimal? ((n.whole ++ tail).map toChar) = some i := hdenotes
    have hfirst : ∀ c ∈ ((n.whole ++ tail).map toChar).head?, c.isDigit = true := by
      obtain ⟨d, ds, hwhole⟩ := List.exists_cons_of_ne_nil h.whole_ne_nil
      rw [hwhole]
      rintro c ⟨⟩
      exact isDigit_toChar_iff.2 (h.isDigit_whole d (hwhole ▸ List.mem_cons_self))
    rw [Text.Ascii.signedDecimal?_of_isDigit hfirst] at hdenotes
    obtain ⟨m, hm, rfl⟩ := Option.map_eq_some_iff.1 hdenotes
    obtain ⟨hmarked, hvalue⟩ := eq_of_decimal? hm
    obtain ⟨hfraction, hexponent, rfl⟩ := htail.resolve_right hmarked
    obtain rfl := hvalue rfl
    exact integer?_of_not_negative hfraction hexponent hsign (Int.ofNat_lt.1 hi.2)

/-- What is not read as an integer is the text of none that 64 bits can hold. -/
theorem not_isDecimal_of_number {literal : String} {finite : Bool} {i : Int}
    (h : number s = .ok (.real literal finite, rest)) (hi : IsInRange i) :
    ¬IsDecimal literal i := by
  intro hdecimal
  rw [number] at h
  split at h
  · cases h
  next n behind hn =>
  split at h
  · cases h
  next hinteger =>
  cases h
  obtain ⟨front, rfl, hwritten⟩ := numeral_eq_ok hn
  have htake : (front ++ rest).take ((front ++ rest).length - rest.length) = front := by simp
  rw [htake] at hdecimal
  rw [hwritten.integer?_eq hdecimal hi] at hinteger
  cases hinteger

/-! ## Where numbers are read -/

/-- Whether all that a document holds as a number that is no integer was read as one. -/
inductive IsRead : Document → Prop
  | null : IsRead .null
  | bool (b : Bool) : IsRead (.bool b)
  | integer (i : Int) : IsRead (.integer i)
  | real {literal : String} {finite : Bool} {s rest : List UInt8}
    (h : number s = .ok (.real literal finite, rest)) : IsRead (.real literal finite)
  | text (content : Except Defect String) : IsRead (.text content)
  | list {items : List Document} {stop : Option Break} (h : ∀ d ∈ items, IsRead d) :
    IsRead (.list items stop)
  | object {ms : List (Except Defect String × Document)} {stop : Option Break}
    (h : ∀ m ∈ ms, IsRead m.2) : IsRead (.object ms stop)
  | broken (b : Break) : IsRead (.broken b)

theorem IsRead.not_isDecimal {literal : String} {finite : Bool} (h : IsRead (.real literal finite))
    {i : Int} (hi : IsInRange i) : ¬IsDecimal literal i := by
  cases h with
  | real hnumber => exact not_isDecimal_of_number hnumber hi

theorem IsRead.of_mem_members {ms : List (Except Defect String × Document)} {stop : Option Break}
    (h : IsRead (.object ms stop)) {m : Except Defect String × Document} (hm : m ∈ ms) :
    IsRead m.2 := by
  cases h with
  | object hmembers => exact hmembers m hm

theorem isRead_of_number {d : Document} (h : number s = .ok (d, rest)) : IsRead d := by
  have hnumber := h
  rw [number] at h
  split at h
  · cases h
  · split at h
    · cases h
      exact .integer _
    · cases h
      exact .real hnumber

theorem isRead_of_scalar {b : UInt8} {d : Document} (h : scalar b s = .ok (d, rest)) :
    IsRead d := by
  have hmap {α : Type} {x : Except Break α} {f : α → Document × List UInt8}
      (hf : ∀ a, IsRead (f a).1) (hx : x.map f = .ok (d, rest)) : IsRead d := by
    obtain ⟨a, -, ha⟩ := Attempt.map_eq_ok_iff.1 hx
    have hread := hf a
    rwa [ha] at hread
  rw [scalar] at h
  split at h
  · exact hmap (fun _ => .null) h
  split at h
  · exact hmap (fun _ => .bool true) h
  split at h
  · exact hmap (fun _ => .bool false) h
  split at h
  · exact hmap (fun a => .text a.1) h
  split at h
  · exact isRead_of_number h
  · cases h

/-- Whether all that is read with some fuel was read. -/
structure ReadsAll (fuel : Nat) : Prop where
  value : ∀ s, IsRead (value fuel s).1
  items : ∀ s, ∀ d ∈ (items fuel s).entries, IsRead d
  members : ∀ s, ∀ m ∈ (members fuel s).entries, IsRead m.2

variable {fuel : Nat}

theorem ReadsAll.value_succ (h : ReadsAll fuel) (s : List UInt8) :
    IsRead (Reader.value (fuel + 1) s).1 := by
  simp only [Reader.value]
  split
  · exact .broken _
  split
  · split
    · exact .list nofun
    · split
      · exact .list nofun
      · exact .list (h.items _)
  split
  · split
    · exact .object nofun
    · split
      · exact .object nofun
      · exact .object (h.members _)
  split
  · exact .broken _
  · next hscalar => exact isRead_of_scalar hscalar

theorem ReadsAll.items_succ (h : ReadsAll fuel) (s : List UInt8) :
    ∀ d ∈ (Reader.items (fuel + 1) s).entries, IsRead d := by
  have hfirst := h.value s
  simp only [Reader.items]
  split
  · next d hvalue =>
    rw [hvalue] at hfirst
    exact List.forall_mem_singleton.2 hfirst
  next d rest hvalue =>
  rw [hvalue] at hfirst
  split
  · exact List.forall_mem_singleton.2 hfirst
  · exact List.forall_mem_singleton.2 hfirst
  · exact List.forall_mem_cons.2 ⟨hfirst, h.items _⟩

theorem ReadsAll.members_succ (h : ReadsAll fuel) (s : List UInt8) :
    ∀ m ∈ (Reader.members (fuel + 1) s).entries, IsRead m.2 := by
  simp only [Reader.members]
  split
  · exact nofun
  split
  swap
  · exact nofun
  split
  · exact nofun
  split
  · exact List.forall_mem_singleton.2 (.broken _)
  next rest hcolon =>
  have hfirst := h.value rest
  split
  · next d hvalue =>
    rw [hvalue] at hfirst
    exact List.forall_mem_singleton.2 hfirst
  next d rest hvalue =>
  rw [hvalue] at hfirst
  split
  · exact List.forall_mem_singleton.2 hfirst
  · exact List.forall_mem_singleton.2 hfirst
  · exact List.forall_mem_cons.2 ⟨hfirst, h.members _⟩

theorem readsAll (fuel : Nat) : ReadsAll fuel := by
  induction fuel with
  | zero => exact ⟨fun _ => .broken _, fun _ => nofun, fun _ => nofun⟩
  | succ fuel ih => exact ⟨ih.value_succ, ih.items_succ, ih.members_succ⟩

theorem isRead_ofBytes (bytes : List UInt8) : IsRead (Text.ofBytes bytes).document := by
  have hvalue := (readsAll (2 * bytes.length + 2)).value bytes
  rw [Text.ofBytes]
  split
  · next d heq =>
    rw [heq] at hvalue
    exact hvalue
  · next d rest heq =>
    rw [heq] at hvalue
    exact hvalue

end VaultPki.Json.Reader

/-!
# ASCII letters, digits and blanks

Case folding here touches the letters `A` to `Z` alone: a character outside ASCII is never changed,
even if it has an ASCII letter as its lower case.
-/

namespace VaultPki.Text.Ascii

/-- The characters of a text with `A` to `Z` made lower case. -/
def fold (s : String) : List Char :=
  s.toList.map Char.toLower

def lower (s : String) : String :=
  String.ofList (fold s)

/-- The text with `a` to `z` made capital. -/
def upper (s : String) : String :=
  String.ofList (s.toList.map Char.toUpper)

/-- Equality up to the case of ASCII letters. -/
def sameFolded (s t : String) : Bool :=
  fold s == fold t

def hexDigit (n : Nat) : Char :=
  if n < 10 then Char.ofNat (48 + n) else Char.ofNat (87 + n)

def upperHexDigit (n : Nat) : Char :=
  if n < 10 then Char.ofNat (48 + n) else Char.ofNat (55 + n)

/-- The value of a byte that is a hexadecimal digit in either case. -/
def hexValue? (b : UInt8) : Option Nat :=
  if 48 ≤ b && b ≤ 57 then some (b.toNat - 48)
  else if 65 ≤ b && b ≤ 70 then some (b.toNat - 55)
  else if 97 ≤ b && b ≤ 102 then some (b.toNat - 87)
  else none

/-- The value of a character that is a hexadecimal digit in either case. -/
def hexDigitValue? (c : Char) : Option Nat :=
  if c.toNat < 128 then hexValue? (UInt8.ofNat c.toNat) else none

/-- Space, tab, line feed, form feed and carriage return. -/
def isBlankByte (b : UInt8) : Bool :=
  b == 32 || b == 9 || b == 10 || b == 12 || b == 13

/-- A natural number in decimal with at least `width` digits, padded with zeros on the left. -/
def paddedDecimal (width n : Nat) : String :=
  let digits := Nat.toDigits 10 n
  String.ofList (List.replicate (width - digits.length) '0' ++ digits)

/-- The number that a non-empty sequence of decimal digits denotes. -/
def decimal? (cs : List Char) : Option Nat :=
  if cs.isEmpty then none
  else cs.foldl
    (fun acc c => acc.bind fun n => if c.isDigit then some (10 * n + (c.toNat - 48)) else none)
    (some 0)

/-- The number that decimal digits with an optional sign in front denote. -/
def signedDecimal? : List Char → Option Int
  | '+' :: cs => (decimal? cs).map Int.ofNat
  | '-' :: cs => (decimal? cs).map fun n => -Int.ofNat n
  | cs => (decimal? cs).map Int.ofNat

end VaultPki.Text.Ascii

/-!
# Blank characters

The property `White_Space` of Unicode, and the trimming of texts by it.
-/

namespace VaultPki.Text

/-- The characters with the property `White_Space`. -/
def isBlank (c : Char) : Bool :=
  let n := c.toNat
  (0x9 ≤ n && n ≤ 0xD) || n == 0x20 || n == 0x85 || n == 0xA0 || n == 0x1680 ||
    (0x2000 ≤ n && n ≤ 0x200A) || n == 0x2028 || n == 0x2029 || n == 0x202F || n == 0x205F ||
    n == 0x3000

/-- A text without the characters that satisfy `p` at its two ends. -/
def trimBoth (p : Char → Bool) (s : String) : String :=
  String.ofList ((s.toList.dropWhile p).reverse.dropWhile p).reverse

/-- A text without the blanks at its two ends. -/
def trim (s : String) : String :=
  trimBoth isBlank s

/-- Whether a text consists of blanks only; the empty text does. -/
def isBlankText (s : String) : Bool :=
  s.toList.all isBlank

end VaultPki.Text

import VaultPki.Text.Glyph
import VaultPki.Url.DomainName.Folding.Expansion
import VaultPki.Url.DomainName.Folding.Row
import VaultPki.Url.DomainName.Folding.Run

/-!
# Folding of characters in domain names

Domain names are compared without regard to case and to variants of letters, so each character is
folded to those that it stands for: capital letters to small ones, wide, circled and squared ones to
plain ones, ligatures to their letters. Some characters leave no trace, and some cannot be used.
-/

namespace VaultPki.Url.DomainName.Folding

open Text.CodePoints

/-- Characters that leave no trace in a name: the soft hyphen, joining marks, fillers and variation
selectors. -/
def dropped : List (Nat × Nat) := [
  (0xAD, 0xAD), (0x34F, 0x34F), (0x115F, 0x1160), (0x17B4, 0x17B5), (0x180B, 0x180F),
  (0x200B, 0x200B), (0x2060, 0x2064), (0x206A, 0x206F), (0x3164, 0x3164), (0xFE00, 0xFE0F),
  (0xFEFF, 0xFEFF), (0xFFA0, 0xFFA0), (0x1BCA0, 0x1BCA3), (0x1D173, 0x1D17A), (0xE0100, 0xE01EF)]

/-- Characters that can be read but cannot be used: those that hold a full stop or a slash of their
own, those that describe characters, and those that stand for what is missing. -/
def unusable : List (Nat × Nat) := [
  (0x2024, 0x2026), (0x2488, 0x249B), (0x2FF0, 0x2FFF), (0x31EF, 0x31EF), (0x33C2, 0x33C2),
  (0x33C7, 0x33C7), (0x33D8, 0x33D8), (0xFE12, 0xFE12), (0xFE19, 0xFE19), (0xFE30, 0xFE30),
  (0xFE52, 0xFE52), (0xFFFC, 0xFFFD), (0x1F100, 0x1F100)]

/-- The joiner and the non-joiner, which decide how the letters around them are written. -/
def isJoiner (c : Char) : Bool :=
  c.toNat == 0x200C || c.toNat == 0x200D

/-- The code points to which one outside ASCII is folded. -/
def image? (n : Nat) : Option (List Nat) :=
  match runs.findSome? fun r => r.image? n with
  | some m => some [m]
  | none =>
    match rows.findSome? fun r => r.image? n with
    | some m => some [m]
    | none => expansions.findSome? fun e => e.image? n

/-- What a character is folded to, if it can be used. -/
def fold? (c : Char) : Option (List Char) :=
  if c.toNat < 0x80 then some [c.toLower]
  else if within dropped c then some []
  else
    match image? c.toNat with
    | some image => some (image.map Char.ofNat)
    | none =>
      if isJoiner c then some [c]
      else if Text.Glyph.isSilent c || within unusable c then none
      else some [c]

def isFolded (c : Char) : Bool :=
  fold? c == some [c]

end VaultPki.Url.DomainName.Folding

import VaultPki.Text.Composition.Pair
import VaultPki.Text.Composition.Rank

/-!
# Composition of letters and marks

A letter with marks can be written in several ways: as one character or as several, and marks that
do not touch each other in any order. The composed form is one of them: every character is split as
far as possible, marks are put in the order of their ranks, and each letter takes up the marks with
which it is one character. The syllables of Hangul are split and composed by their numbers.
-/

namespace VaultPki.Text.Composition

/-! ## Hangul -/

/-- The first syllable; those with one leading consonant and vowel follow each other. -/
def firstSyllable : Nat := 0xAC00

def syllableCount : Nat := 11172

/-- The first leading consonant, of which there are 19. -/
def firstLead : Nat := 0x1100

/-- The first vowel, of which there are 21. -/
def firstVowel : Nat := 0x1161

/-- The place in front of the first trailing consonant, of which there are 27. -/
def noTrail : Nat := 0x11A7

def splitSyllable (n : Nat) : List Char :=
  let s := n - firstSyllable
  let front := [Char.ofNat (firstLead + s / 588), Char.ofNat (firstVowel + s % 588 / 28)]
  if s % 28 = 0 then front else front ++ [Char.ofNat (noTrail + s % 28)]

def isSyllable (n : Nat) : Bool :=
  firstSyllable ≤ n && n < firstSyllable + syllableCount

/-- The syllable of a consonant and a vowel, or of a syllable and a trailing consonant. -/
def joinSyllable? (a b : Nat) : Option Nat :=
  if firstLead ≤ a && a < firstLead + 19 && firstVowel ≤ b && b < firstVowel + 21 then
    some (firstSyllable + ((a - firstLead) * 21 + (b - firstVowel)) * 28)
  else if isSyllable a && (a - firstSyllable) % 28 == 0 && noTrail < b && b < noTrail + 28 then
    some (a + (b - noTrail))
  else none

/-! ## Splitting -/

/-- The two characters that one says the same as, if it is composed. -/
def splitChar (c : Char) : List Char :=
  if c.toNat < 0xC0 then [c]
  else if isSyllable c.toNat then splitSyllable c.toNat
  else
    match pairs.find? fun p => p.whole = c.toNat with
    | some p => [Char.ofNat p.base, Char.ofNat p.mark]
    | none => [c]

/-- A text in which nothing is composed. The base of a composed character can itself be composed,
but its base cannot. -/
def split (text : List Char) : List Char :=
  (text.flatMap splitChar).flatMap splitChar

/-! ## Order -/

/-- Puts a character in front of a text in order, behind the marks of lower rank. -/
def insertRanked (c : Char) : List Char → List Char
  | [] => [c]
  | d :: rest =>
    if rank d ≠ 0 && rank d < rank c then d :: insertRanked c rest else c :: d :: rest

/-- A text with the marks behind each letter in the order of their ranks. -/
def order : List Char → List Char
  | [] => []
  | c :: rest => insertRanked c (order rest)

/-! ## Joining -/

def join? (a b : Char) : Option Char :=
  match joinSyllable? a.toNat b.toNat with
  | some n => some (Char.ofNat n)
  | none =>
    if b.toNat < 0x300 then none
    else
      match pairs.find? fun p => p.base = a.toNat && p.mark = b.toNat with
      | some p => some (Char.ofNat p.whole)
      | none => none

/-- Reads on behind a letter. `passed` are the marks that it has not taken up, the last one first.
What follows can be taken up unless one of those marks is in its way, of the same rank or a higher
one. -/
def joinFrom (letter : Char) (passed : List Char) : List Char → List Char
  | [] => letter :: passed.reverse
  | c :: rest =>
    let joined :=
      match passed with
      | [] => join? letter c
      | p :: _ => if rank p < rank c then join? letter c else none
    match joined with
    | some whole => joinFrom whole passed rest
    | none =>
      if rank c = 0 then letter :: passed.reverse ++ joinFrom c [] rest
      else joinFrom letter (c :: passed) rest

/-- A text in which each letter has taken up what it can. Marks in front of the first letter stay
as they are. -/
def join : List Char → List Char
  | [] => []
  | c :: rest => if rank c = 0 then joinFrom c [] rest else c :: join rest

def compose (text : List Char) : List Char :=
  join (order (split text))

end VaultPki.Text.Composition

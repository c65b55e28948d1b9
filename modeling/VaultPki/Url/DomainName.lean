import VaultPki.Text.Commas
import VaultPki.Text.Composition
import VaultPki.Text.Utf8
import VaultPki.Url.DomainName.Direction
import VaultPki.Url.DomainName.Joining
import VaultPki.Url.Percent
import VaultPki.Url.Punycode

/-!
# Domain names

A domain name is brought into its ASCII form: encoded bytes are decoded, characters are folded and
composed, and each label with characters outside ASCII is written in Punycode behind `xn--`. A label
that has this form already is read, to see whether it could have come about like that. Names with
characters that separate the parts of an address, and names that could be mistaken for others, are
refused.
-/

namespace VaultPki.Url.DomainName

def isForbidden (c : Char) : Bool :=
  c.toNat ≤ 0x20 || c.toNat == 0x7F || c == '%' || c == '#' || c == '/' || c == ':' || c == '<' ||
    c == '>' || c == '?' || c == '@' || c == '[' || c == '\\' || c == ']' || c == '^' || c == '|'

def isPlain (c : Char) : Bool :=
  c.toNat < 0x80

def encodedMark : List Char :=
  ['x', 'n', '-', '-']

/-- How many characters a label that needs encoding can have. -/
def longestLabel : Nat := 1000

/-- How many characters an encoded label can have behind its mark. -/
def longestCode : Nat := 2000

/-- A label as it reads, and as it is written in ASCII. -/
structure Label where
  letters : List Char
  written : List Char
  deriving DecidableEq

/-- Whether folded characters can be a label: none is forbidden, the first is no mark, joiners stand
where they may, and there are not too many. -/
def isSound (letters : List Char) : Bool :=
  letters.all (fun c => !isForbidden c) && !letters.head?.any Text.Mark.isMark &&
    Joining.arePlaced [] letters && (letters.all isPlain || letters.length ≤ longestLabel)

/-- Whether a decoded label is what folding and composing would have made of it. -/
def isSettled (letters : List Char) : Bool :=
  letters.all (fun c => Folding.isFolded c && c != '.') &&
    Text.Composition.compose letters == letters

/-- The label with a given code, which must be the Punycode of something that needs it. -/
def Label.ofCode? (code : List Char) : Option Label :=
  if code.all isPlain && code.getLast?.any (· != '-') && code.length ≤ longestCode then
    match Punycode.decode? code with
    | none => none
    | some letters =>
      if isSettled letters && isSound letters then some ⟨letters, encodedMark ++ code⟩ else none
  else none

/-- The label of folded and composed characters. -/
def Label.ofFolded? (letters : List Char) : Option Label :=
  if encodedMark.isPrefixOf letters then Label.ofCode? (letters.drop encodedMark.length)
  else if isSound letters then
    some ⟨letters, if letters.all isPlain then letters else encodedMark ++ Punycode.encode letters⟩
  else none

/-- Whether the labels can stand together: where anything runs backward, each label keeps to one
direction. -/
def areInOrder (labels : List Label) : Bool :=
  !(labels.any fun l => l.letters.any Direction.runsBackward) ||
    labels.all fun l => Direction.isKept l.letters

def toAscii? (name : List Char) : Option (List Char) := do
  let folded ← name.mapM Folding.fold?
  let composed := Text.Composition.compose folded.flatten
  let labels ← (Text.Commas.splitAt '.' composed).mapM Label.ofFolded?
  if areInOrder labels then some (Text.Commas.joinWith ['.'] (labels.map Label.written)) else none

/-- The ASCII form of the name that stands in an address. -/
def ofText? (text : List Char) : Option (List Char) :=
  match Text.Utf8.decode? (Percent.decode (Text.Utf8.encode (String.ofList text))) with
  | none => none
  | some name => toAscii? name

end VaultPki.Url.DomainName

import VaultPki.Text.Ascii
import VaultPki.Text.Utf8

/-!
# Percent-encoding

A character that a part of an address cannot hold is written as its UTF-8 bytes, each as a percent
sign and two upper-case hexadecimal digits. Every part has its own set of such ASCII characters;
characters outside ASCII are always encoded. The percent sign itself is in no set, so that text
which is already encoded stays as it is.
-/

namespace VaultPki.Url.Percent

def encodeByte (b : UInt8) : List Char :=
  ['%', Text.Ascii.upperHexDigit (b.toNat / 16), Text.Ascii.upperHexDigit (b.toNat % 16)]

/-- A character, encoded if it is in the set or outside ASCII. -/
def encodeChar (set : Char → Bool) (c : Char) : List Char :=
  if set c || 0x80 ≤ c.toNat then (String.utf8EncodeChar c).flatMap encodeByte else [c]

def encode (set : Char → Bool) (cs : List Char) : List Char :=
  cs.flatMap (encodeChar set)

/-- The bytes of a text in which encoded bytes are decoded. A percent sign without two digits
stands for itself. -/
def decode : List UInt8 → List UInt8
  | [] => []
  | [a] => [a]
  | [a, b] => [a, b]
  | a :: b :: c :: rest =>
    if a == 37 then
      match Text.Ascii.hexValue? b, Text.Ascii.hexValue? c with
      | some h, some l => UInt8.ofNat (16 * h + l) :: decode rest
      | _, _ => a :: decode (b :: c :: rest)
    else a :: decode (b :: c :: rest)

def isControl (c : Char) : Bool :=
  c.toNat < 0x20 || c.toNat == 0x7F

def fragmentSet (c : Char) : Bool :=
  isControl c || c == ' ' || c == '"' || c == '<' || c == '>' || c.toNat == 0x60

def pathSet (c : Char) : Bool :=
  fragmentSet c || c == '#' || c == '?' || c == '\x7b' || c == '\x7d'

def credentialSet (c : Char) : Bool :=
  pathSet c || c == '/' || c == ':' || c == ';' || c == '=' || c == '@' || c == '[' || c == '\\' ||
    c == ']' || c == '^' || c == '|'

def querySet (c : Char) : Bool :=
  isControl c || c == ' ' || c == '"' || c == '#' || c == '<' || c == '>'

def specialQuerySet (c : Char) : Bool :=
  querySet c || c == '\''

end VaultPki.Url.Percent

import VaultPki.Json.Basic
import VaultPki.Text.Ascii

/-!
# JSON texts

A value as text, either without any blanks or with one member or item a line. In a string only the
quote, the backslash and the control characters are escaped.
-/

namespace VaultPki.Json

def escape (c : Char) : List Char :=
  if c = '"' then ['\\', '"']
  else if c = '\\' then ['\\', '\\']
  else if c = '\n' then ['\\', 'n']
  else if c = '\r' then ['\\', 'r']
  else if c = '\t' then ['\\', 't']
  else if c.toNat = 8 then ['\\', 'b']
  else if c.toNat = 12 then ['\\', 'f']
  else if c.toNat < 32 then
    ['\\', 'u', '0', '0', Text.Ascii.hexDigit (c.toNat / 16), Text.Ascii.hexDigit (c.toNat % 16)]
  else [c]

def writeString (s : String) : List Char :=
  '"' :: s.toList.flatMap escape ++ ['"']

mutual

def write : Json → List Char
  | .null => ['n', 'u', 'l', 'l']
  | .bool true => ['t', 'r', 'u', 'e']
  | .bool false => ['f', 'a', 'l', 's', 'e']
  | .integer n => n.repr.toList
  | .real literal => literal.toList
  | .text s => writeString s
  | .list items => '[' :: writeItems items ++ [']']
  | .object ms => '\x7b' :: writeMembers ms ++ ['\x7d']

def writeItems : List Json → List Char
  | [] => []
  | [j] => write j
  | j :: rest => write j ++ ',' :: writeItems rest

def writeMembers : List (String × Json) → List Char
  | [] => []
  | [(n, j)] => writeString n ++ ':' :: write j
  | (n, j) :: rest => writeString n ++ ':' :: write j ++ ',' :: writeMembers rest

end

def compact (j : Json) : String :=
  String.ofList (write j)

/-- A line break and the blanks in front of what stands `depth` levels deep. -/
def newline (depth : Nat) : List Char :=
  '\n' :: List.replicate (2 * depth) ' '

mutual

/-- A value that stands `depth` levels deep, with a line for each item and member. -/
def writeIndented (depth : Nat) : Json → List Char
  | .list [] => ['[', ']']
  | .list (j :: rest) =>
    '[' :: newline (depth + 1) ++ writeIndented (depth + 1) j ++
      writeIndentedItems (depth + 1) rest ++ newline depth ++ [']']
  | .object [] => ['\x7b', '\x7d']
  | .object ((n, j) :: rest) =>
    '\x7b' :: newline (depth + 1) ++ writeString n ++ [':', ' '] ++ writeIndented (depth + 1) j ++
      writeIndentedMembers (depth + 1) rest ++ newline depth ++ ['\x7d']
  | j => write j

/-- The items behind the first, each on a line of its own. -/
def writeIndentedItems (depth : Nat) : List Json → List Char
  | [] => []
  | j :: rest =>
    ',' :: newline depth ++ writeIndented depth j ++ writeIndentedItems depth rest

/-- The members behind the first, each on a line of its own. -/
def writeIndentedMembers (depth : Nat) : List (String × Json) → List Char
  | [] => []
  | (n, j) :: rest =>
    ',' :: newline depth ++ writeString n ++ [':', ' '] ++ writeIndented depth j ++
      writeIndentedMembers depth rest

end

/-- A value as a text with two blanks of indentation for each level. -/
def indented (j : Json) : String :=
  String.ofList (writeIndented 0 j)

end VaultPki.Json

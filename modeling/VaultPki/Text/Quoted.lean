import VaultPki.Text.Ascii
import VaultPki.Text.Commas
import VaultPki.Text.Glyph

/-!
# Diagnostic texts of values

How values are shown to a person who debugs: texts in double quotes with every character that could
not be told apart on a screen written by its code, options as `Some(...)` or `None`, lists in square
brackets, and records with the names of their fields.
-/

namespace VaultPki.Text

namespace Quoted

/-- A code point in lower-case hexadecimal between braces. -/
def codePoint (n : Nat) : List Char :=
  ['\\', 'u', '\x7b'] ++ Nat.toDigits 16 n ++ ['\x7d']

def escape (c : Char) : List Char :=
  if c = '"' then ['\\', '"']
  else if c = '\\' then ['\\', '\\']
  else if c = '\n' then ['\\', 'n']
  else if c = '\t' then ['\\', 't']
  else if c = '\r' then ['\\', 'r']
  else if c.toNat = 0 then ['\\', '0']
  else if Glyph.isAttaching c || Glyph.isInvisible c then codePoint c.toNat
  else [c]

end Quoted

def quoted (s : String) : String :=
  String.ofList ('"' :: s.toList.flatMap Quoted.escape ++ ['"'])

def commaSpaced (texts : List String) : String :=
  String.ofList (Commas.joinWith [',', ' '] (texts.map String.toList))

/-- An optional value, given how a present one is shown. -/
def shownOption {α : Type} (shown : α → String) : Option α → String
  | none => "None"
  | some a => "Some(" ++ shown a ++ ")"

def shownList {α : Type} (shown : α → String) (as : List α) : String :=
  "[" ++ commaSpaced (as.map shown) ++ "]"

def shownBool (b : Bool) : String :=
  if b then "true" else "false"

/-- A record: its name, then its fields with their values between braces. -/
def shownRecord (name : String) (fields : List (String × String)) : String :=
  name ++ " \x7b " ++ commaSpaced (fields.map fun f => f.1 ++ ": " ++ f.2) ++ " \x7d"

/-- A record of which only the given fields are shown. -/
def shownPartOf (name : String) (fields : List (String × String)) : String :=
  name ++ " \x7b " ++ commaSpaced (fields.map (fun f => f.1 ++ ": " ++ f.2) ++ [".."]) ++ " \x7d"

end VaultPki.Text

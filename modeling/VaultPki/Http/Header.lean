import VaultPki.Text.Ascii

/-!
# Headers

Names of headers are tokens and do not differ in case; values hold any characters but controls, of
which they may hold tabs. A list of headers has each name once.
-/

namespace VaultPki.Http

/-- Characters that may stand in the name of a header. -/
def isTokenChar (c : Char) : Bool :=
  c.isAlphanum || c == '!' || c == '#' || c == '$' || c == '%' || c == '&' || c == '\'' ||
    c == '*' || c == '+' || c == '-' || c == '.' || c == '^' || c == '_' || c.toNat == 0x60 ||
    c == '|' || c == '~'

def isHeaderName (s : String) : Bool :=
  !s.isEmpty && s.toList.all isTokenChar

/-- Characters that may stand in the value of a header. -/
def isValueChar (c : Char) : Bool :=
  c == '\t' || (0x20 ≤ c.toNat && c.toNat != 0x7F)

def isHeaderValue (s : String) : Bool :=
  s.toList.all isValueChar

/-- The headers of a request by their names in lower case. -/
abbrev Headers := List (String × String)

namespace Headers

/-- Gives a name a value, in the place of the one it has. -/
def set (name value : String) : Headers → Headers
  | [] => [(name, value)]
  | (n, v) :: rest => if n = name then (n, value) :: rest else (n, v) :: set name value rest

def setNew (hs : Headers) (h : String × String) : Headers :=
  if (hs.lookup h.1).isSome then hs else hs ++ [h]

/-- Headers with those of a second list whose names they lack. -/
def withDefaults (hs defaults : Headers) : Headers :=
  defaults.foldl setNew hs

end Headers

end VaultPki.Http

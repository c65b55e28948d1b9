import VaultPki.Json.Basic

/-!
# What a text says as JSON, up to its first defect

Reading a text never fails as a whole: it yields a document, in which the place where the text stops
being JSON is marked. Whether that matters depends on who looks. A reader of typed records may meet
a value of the wrong kind before it comes to the defect, and a value that nobody looks at may hold
strings that say nothing as text, such as an unpaired surrogate. So two views are kept apart: a
value can be *skimmed*, which checks only its grammar, or *read*.
-/

namespace VaultPki

namespace Json

/-- Why a text is no JSON: it ends too early, or a character has no place where it stands. -/
inductive Defect where
  | truncated
  | malformed
  deriving DecidableEq, Repr

/-- Why a text cannot be decoded: a defect of its grammar, or a value of the wrong kind. -/
inductive Problem where
  | defect (d : Defect)
  | mismatch
  deriving DecidableEq, Repr

/-- The place where reading stops, with the defect met when skimming and the one met when
reading. -/
structure Break where
  skimmed : Defect
  read : Defect
  deriving DecidableEq, Repr

/-- The break at which both views meet the same defect. -/
def Break.both (d : Defect) : Break :=
  ⟨d, d⟩

/-- A text as far as it is JSON. In a list or an object `stop` is the break met in the place of a
separator, a name or the closing bracket. -/
inductive Document where
  | null
  | bool (b : Bool)
  | integer (n : Int)
  | real (literal : String) (finite : Bool)
  | text (content : Except Defect String)
  | list (items : List Document) (stop : Option Break)
  | object (members : List (Except Defect String × Document)) (stop : Option Break)
  | broken (b : Break)

namespace Document

mutual

/-- The first defect that skimming meets. -/
def skim : Document → Option Defect
  | .list items stop => skimItems items stop
  | .object members stop => skimMembers members stop
  | .broken b => some b.skimmed
  | _ => none

/-- The first defect among items and behind them. -/
def skimItems : List Document → Option Break → Option Defect
  | [], stop => stop.map Break.skimmed
  | d :: rest, stop =>
    match skim d with
    | some defect => some defect
    | none => skimItems rest stop

/-- The first defect among members and behind them. -/
def skimMembers : List (Except Defect String × Document) → Option Break → Option Defect
  | [], stop => stop.map Break.skimmed
  | (_, d) :: rest, stop =>
    match skim d with
    | some defect => some defect
    | none => skimMembers rest stop

end

mutual

/-- The value, read in full. At most `levels` lists and objects may stand inside one another. -/
def value (levels : Nat) : Document → Except Defect Json
  | .null => .ok .null
  | .bool b => .ok (.bool b)
  | .integer n => .ok (.integer n)
  | .real literal finite => if finite then .ok (.real literal) else .error .malformed
  | .text content => content.map .text
  | .list items stop =>
    match levels with
    | 0 => .error .malformed
    | levels + 1 => (valueItems levels items stop).map .list
  | .object members stop =>
    match levels with
    | 0 => .error .malformed
    | levels + 1 => (valueMembers levels members stop).map Json.ofMembers
  | .broken b => .error b.read

def valueItems (levels : Nat) : List Document → Option Break → Except Defect (List Json)
  | [], none => .ok []
  | [], some b => .error b.read
  | d :: rest, stop =>
    match value levels d with
    | .error defect => .error defect
    | .ok j => (valueItems levels rest stop).map (j :: ·)

def valueMembers (levels : Nat) : List (Except Defect String × Document) → Option Break →
    Except Defect (List (String × Json))
  | [], none => .ok []
  | [], some b => .error b.read
  | (.error defect, _) :: _, _ => .error defect
  | (.ok name, d) :: rest, stop =>
    match value levels d with
    | .error defect => .error defect
    | .ok j => (valueMembers levels rest stop).map ((name, j) :: ·)

end

/-- What is wrong with a document that stands where another kind of value is wanted. Strings and
numbers are read before they are refused; lists and objects are refused at their bracket. -/
def refusal : Document → Problem
  | .text (.error d) => .defect d
  | .real _ false => .defect .malformed
  | .broken b => .defect b.read
  | _ => .mismatch

mutual

/-- The document that a value is written as. -/
def ofJson : Json → Document
  | .null => .null
  | .bool b => .bool b
  | .integer n => .integer n
  | .real literal => .real literal true
  | .text s => .text (.ok s)
  | .list items => .list (ofItems items) none
  | .object ms => .object (ofMembers ms) none

def ofItems : List Json → List Document
  | [] => []
  | j :: rest => ofJson j :: ofItems rest

def ofMembers : List (String × Json) → List (Except Defect String × Document)
  | [] => []
  | (n, j) :: rest => (.ok n, ofJson j) :: ofMembers rest

end

end Document

end Json

end VaultPki

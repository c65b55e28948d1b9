import VaultPki.Record.Codec

/-!
# Fields and rows

A record on the wire is a list of fields. Its values form a row, a tuple with one entry for each
field, so that reading and writing are defined once, by recursion on the list.
-/

namespace VaultPki.Record

open VaultPki.Json (Document Problem)

/-- A member of a record. `absent` is the value of a member that an object does not have, `short`
that of one for which a list of values is too short; without it such a record is refused. Values in
`omits` are not written. -/
structure Field where
  name : String
  Value : Type
  codec : Codec Value
  absent : Option Value
  short : Option Value
  omits : Value → Bool

namespace Field

variable {α : Type}

/-- A member that must be there. -/
def required (name : String) (c : Codec α) : Field :=
  ⟨name, α, c, none, none, fun _ => false⟩

/-- A member with a value for when it is missing. -/
def defaulted (name : String) (c : Codec α) (value : α) : Field :=
  ⟨name, α, c, some value, some value, fun _ => false⟩

/-- A member that is left out when absent. -/
def optional (name : String) (c : Codec α) : Field :=
  ⟨name, Option α, c.nullable, some none, none, Option.isNone⟩

/-- A member that is left out when absent and may be missing at the end of a list of values. -/
def optionalLast (name : String) (c : Codec α) : Field :=
  ⟨name, Option α, c.nullable, some none, some none, Option.isNone⟩

/-- A duration, left out when absent. -/
def duration (name : String) : Field :=
  ⟨name, Option String, .duration, some none, some none, Option.isNone⟩

/-- A member that is written as `null` when absent. -/
def nullable (name : String) (c : Codec α) : Field :=
  ⟨name, Option α, c.nullable, some none, some none, fun _ => false⟩

/-- A member that is written as `null` when absent and that a list of values must have. -/
def nullableFirst (name : String) (c : Codec α) : Field :=
  ⟨name, Option α, c.nullable, some none, none, fun _ => false⟩

end Field

/-- One value for each field. -/
def Row : List Field → Type
  | [] => Unit
  | f :: fs => f.Value × Row fs

/-- The values of the fields met so far. -/
def Slots : List Field → Type
  | [] => Unit
  | f :: fs => Option f.Value × Slots fs

namespace Row

def append : {fs gs : List Field} → Row fs → Row gs → Row (fs ++ gs)
  | [], _, _, r => r
  | _ :: _, _, (v, rest), r => (v, append rest r)

/-- The front part of a row. -/
def left : (fs : List Field) → {gs : List Field} → Row (fs ++ gs) → Row fs
  | [], _, _ => ()
  | _ :: fs, _, (v, rest) => (v, left fs rest)

/-- The back part of a row. -/
def right : (fs : List Field) → {gs : List Field} → Row (fs ++ gs) → Row gs
  | [], _, r => r
  | _ :: fs, _, (_, rest) => right fs rest

/-- The members that a row is written as. -/
def members : (fs : List Field) → Row fs → List (String × Json)
  | [], _ => []
  | f :: fs, (v, rest) =>
    if f.omits v then members fs rest else (f.name, f.codec.write v) :: members fs rest

/-- Reads a list of values, one for each field in order. -/
def ofItems (levels : Nat) :
    (fs : List Field) → List Document → Option Json.Break → Except Problem (Row fs)
  | [], [], none => .ok ()
  | [], [], some b => .error (.defect b.read)
  | [], _ :: _, _ => .error (.defect .malformed)
  | _ :: _, [], some b => .error (.defect b.read)
  | f :: fs, [], none =>
    match f.short with
    | none => .error .mismatch
    | some v => (ofItems levels fs [] none).map (Prod.mk v)
  | f :: fs, d :: ds, stop =>
    match f.codec.read levels d with
    | .error p => .error p
    | .ok v => (ofItems levels fs ds stop).map (Prod.mk v)

end Row

namespace Slots

def empty : (fs : List Field) → Slots fs
  | [] => ()
  | _ :: fs => (none, empty fs)

/-- Takes a member into the slot of its name, if there is one. A second member of one name is
refused before its value is looked at. -/
def fill (levels : Nat) (name : String) (d : Document) :
    (fs : List Field) → Slots fs → Option (Except Problem (Slots fs))
  | [], _ => none
  | f :: fs, (slot, rest) =>
    if f.name = name then
      match slot with
      | some _ => some (.error .mismatch)
      | none => some ((f.codec.read levels d).map fun v => (some v, rest))
    else (fill levels name d fs rest).map fun filled => filled.map fun rest => (slot, rest)

/-- The row, when all members have been met. -/
def row : (fs : List Field) → Slots fs → Except Problem (Row fs)
  | [], _ => .ok ()
  | f :: fs, (slot, rest) =>
    match slot.or f.absent with
    | none => .error .mismatch
    | some v => (row fs rest).map (Prod.mk v)

end Slots

end VaultPki.Record

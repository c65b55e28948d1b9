import VaultPki.Record.Field

/-!
# Layouts

A layout ties a type of records to the fields it has on the wire. A record may *spread* fragments:
their fields stand among its own members, so that every member which is not its own is read in full
and kept until the closing brace, where the fragments take theirs.
-/

namespace VaultPki.Record

open VaultPki.Json (Document Problem Defect Break)

/-- The fields of a type of records, and how its values become rows and rows values. -/
structure Layout (ρ : Type) where
  own : List Field
  spread : List Field
  row : ρ → Row own × Row spread
  ofRow : Row own × Row spread → ρ
  ofRow_row : ∀ r, ofRow (row r) = r := by intro r; rfl
  row_ofRow : ∀ x, row (ofRow x) = x := by intro x; rfl

namespace Layout

variable {ρ : Type}

def plain (fields : List Field) (row : ρ → Row fields) (ofRow : Row fields → ρ)
    (ofRow_row : ∀ r, ofRow (row r) = r) (row_ofRow : ∀ x, row (ofRow x) = x) : Layout ρ where
  own := fields
  spread := []
  row r := (row r, ())
  ofRow x := ofRow x.1
  ofRow_row := ofRow_row
  row_ofRow x := by rw [row_ofRow]; rfl

def names (l : Layout ρ) : List String :=
  (l.own ++ l.spread).map Field.name

def members (l : Layout ρ) (r : ρ) : List (String × Json) :=
  (l.row r).1.members ++ (l.row r).2.members

def write (l : Layout ρ) (r : ρ) : Json :=
  .object (l.members r)

/-- Members as they are read: the slots of the record's own fields, and the members kept for its
fragments. -/
structure Gathered (fields : List Field) where
  slots : Slots fields
  kept : List (String × Document)

/-- Reads a member that is not the record's own. Without fragments it is only skimmed. -/
def other (keeps : Bool) (levels : Nat) (d : Document) : Except Problem Unit :=
  if keeps then (d.value levels).mapError Problem.defect |>.map fun _ => ()
  else
    match d.skim with
    | none => .ok ()
    | some defect => .error (.defect defect)

/-- Reads members in order, up to the first problem. -/
def gather (fields : List Field) (keeps : Bool) (levels : Nat) :
    List (Except Defect String × Document) → Option Break → Gathered fields →
      Except Problem (Gathered fields)
  | [], none, g => .ok g
  | [], some b, _ => .error (.defect b.read)
  | (.error defect, _) :: _, _, _ => .error (.defect defect)
  | (.ok name, d) :: rest, stop, g =>
    match g.slots.fill levels name d with
    | some (.error p) => .error p
    | some (.ok slots) => gather fields keeps levels rest stop { g with slots }
    | none =>
      match other keeps levels d with
      | .error p => .error p
      | .ok () => gather fields keeps levels rest stop { g with kept := g.kept ++ [(name, d)] }

/-- Takes the kept members into the fields of the fragments. -/
def spreadSlots (levels : Nat) (fields : List Field) :
    List (String × Document) → Slots fields → Except Problem (Slots fields)
  | [], slots => .ok slots
  | (name, d) :: rest, slots =>
    match slots.fill levels name d with
    | none => spreadSlots levels fields rest slots
    | some (.error p) => .error p
    | some (.ok slots) => spreadSlots levels fields rest slots

def readMembers (l : Layout ρ) (levels : Nat) (ms : List (Except Defect String × Document))
    (stop : Option Break) : Except Problem ρ := do
  let g ← gather l.own (!l.spread.isEmpty) levels ms stop ⟨.empty l.own, []⟩
  let own ← g.slots.row
  let slots ← spreadSlots levels l.spread g.kept (.empty l.spread)
  let spread ← slots.row
  return l.ofRow (own, spread)

def readItems (l : Layout ρ) (levels : Nat) (items : List Document) (stop : Option Break) :
    Except Problem ρ := do
  let own ← Row.ofItems levels l.own items stop
  let spread ← (Slots.empty l.spread).row
  return l.ofRow (own, spread)

/-- Reads a record. One without fragments may be written as the list of its values. -/
def read (l : Layout ρ) (levels : Nat) (d : Document) : Except Problem ρ :=
  match d, levels with
  | .object _ _, 0 => .error (.defect .malformed)
  | .object ms stop, levels + 1 => l.readMembers levels ms stop
  | .list items stop, levels =>
    if l.spread.isEmpty then
      match levels with
      | 0 => .error (.defect .malformed)
      | levels + 1 => l.readItems levels items stop
    else .error .mismatch
  | d, _ => .error d.refusal

def codec (l : Layout ρ) : Codec ρ where
  read := l.read
  write := l.write

def decode (l : Layout ρ) (bytes : List UInt8) : Except Problem ρ :=
  l.codec.decode bytes

end Layout

end VaultPki.Record

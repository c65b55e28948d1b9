import VaultPki.Json.Reader

/-!
# Codecs

A codec reads values of one type from documents and writes them as JSON. The number that reading
takes says how many lists and objects may still stand inside one another.
-/

namespace VaultPki.Record

open VaultPki.Json (Document Problem)

/-- How values of a type are read and written. -/
structure Codec (α : Type) where
  read : Nat → Document → Except Problem α
  write : α → Json

namespace Codec

variable {α : Type}

def text : Codec String where
  read _
    | .text (.ok s) => .ok s
    | d => .error d.refusal
  write := .text

def flag : Codec Bool where
  read _
    | .bool b => .ok b
    | d => .error d.refusal
  write := .bool

/-- An integer that `narrow` accepts. -/
def integer (narrow : Int → Option α) (widen : α → Int) : Codec α where
  read _
    | .integer n =>
      match narrow n with
      | some a => .ok a
      | none => .error .mismatch
    | d => .error d.refusal
  write a := .integer (widen a)

def narrowUInt32 (n : Int) : Option UInt32 :=
  if 0 ≤ n ∧ n < UInt32.size then some (UInt32.ofNat n.toNat) else none

def narrowInt32 (n : Int) : Option Int32 :=
  if Int32.minValue.toInt ≤ n ∧ n ≤ Int32.maxValue.toInt then some (Int32.ofInt n) else none

def narrowInt64 (n : Int) : Option Int64 :=
  if Int64.minValue.toInt ≤ n ∧ n ≤ Int64.maxValue.toInt then some (Int64.ofInt n) else none

def uint32 : Codec UInt32 :=
  integer narrowUInt32 fun n => n.toNat

def int32 : Codec Int32 :=
  integer narrowInt32 Int32.toInt

def int64 : Codec Int64 :=
  integer narrowInt64 Int64.toInt

def readItems (c : Codec α) (levels : Nat) :
    List Document → Option Json.Break → Except Problem (List α)
  | [], none => .ok []
  | [], some b => .error (.defect b.read)
  | d :: rest, stop =>
    match c.read levels d with
    | .error p => .error p
    | .ok a => (readItems c levels rest stop).map (a :: ·)

def list (c : Codec α) : Codec (List α) where
  read levels
    | .list items stop =>
      match levels with
      | 0 => .error (.defect .malformed)
      | levels + 1 => readItems c levels items stop
    | d => .error d.refusal
  write as := .list (as.map c.write)

/-- A value that may be `null`. -/
def nullable (c : Codec α) : Codec (Option α) where
  read levels
    | .null => .ok none
    | d => (c.read levels d).map some
  write := Json.orNull c.write

def anything : Codec Json where
  read levels d := (d.value levels).mapError .defect
  write j := j

/-- The text of a duration: a string as it is, an integer of 64 bits as its decimal digits. -/
def durationText? : Json → Option String
  | .text s => some s
  | .integer n => (narrowInt64 n).map fun n => n.toInt.repr
  | _ => none

/-- A duration, which may be `null`, a string, or a number of seconds. The value is read in full
before its kind is looked at. -/
def duration : Codec (Option String) where
  read levels
    | .null => .ok none
    | d =>
      match d.value levels with
      | .error defect => .error (.defect defect)
      | .ok j =>
        match durationText? j with
        | none => .error .mismatch
        | some s => .ok (some s)
  write := Json.orNull .text

def decode (c : Codec α) (bytes : List UInt8) : Except Problem α :=
  let t := Json.Text.ofBytes bytes
  match c.read 127 t.document with
  | .error p => .error p
  | .ok a => if t.complete then .ok a else .error (.defect .malformed)

end Codec

end VaultPki.Record

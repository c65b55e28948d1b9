import VaultPki.Text.Ascii
import VaultPki.Text.Commas

/-!
# Addresses of version 4

A host whose last part is a number is an address of four bytes. It may have fewer parts, of which
the last then fills the bytes that are missing, and each part may be written in octal behind `0` or
in hexadecimal behind `0x`.
-/

namespace VaultPki.Url.Ipv4

/-- The number that digits of a base denote; each digit must be below the base. -/
def digits? (base : Nat) (cs : List Char) : Option Nat :=
  cs.foldl
    (fun acc c => acc.bind fun n =>
      match Text.Ascii.hexDigitValue? c with
      | some d => if d < base then some (base * n + d) else none
      | none => none)
    (some 0)

def part? : List Char → Option Nat
  | [] => none
  | '0' :: 'x' :: cs => digits? 16 cs
  | '0' :: 'X' :: cs => digits? 16 cs
  | ['0'] => some 0
  | '0' :: cs => digits? 8 cs
  | cs => digits? 10 cs

/-- The parts of a name; a dot at the end makes no part. -/
def parts (name : List Char) : List (List Char) :=
  let ps := Text.Commas.splitAt '.' name
  if ps.getLast? == some [] then ps.dropLast else ps

def endsInNumber (name : List Char) : Bool :=
  match (parts name).getLast? with
  | none => false
  | some last => (!last.isEmpty && last.all Char.isDigit) || (part? last).isSome

/-- The address that its parts make: all but the last are single bytes. -/
def ofParts? : Nat → List Nat → Option Nat
  | _, [] => none
  | places, [n] => if n < Nat.pow 256 places then some n else none
  | places, n :: ns =>
    if n < 256 then (ofParts? (places - 1) ns).map fun rest => n * Nat.pow 256 (places - 1) + rest
    else none

def ofText? (name : List Char) : Option UInt32 :=
  let ps := parts name
  if 4 < ps.length then none
  else
    match ps.mapM part? with
    | none => none
    | some ns => (ofParts? 4 ns).map UInt32.ofNat

def toText (a : UInt32) : String :=
  let byte (k : Nat) : List Char := Nat.toDigits 10 (a.toNat / Nat.pow 256 k % 256)
  String.ofList (Text.Commas.joinWith ['.'] [byte 3, byte 2, byte 1, byte 0])

end VaultPki.Url.Ipv4

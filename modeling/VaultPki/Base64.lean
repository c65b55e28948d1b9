/-!
# Base64

Three bytes are written as four digits of six bits. Reading accepts blanks between the digits, and
either the right number of padding signs at the end or none. Bits of the last digit that belong to
no byte are ignored.
-/

namespace VaultPki.Base64

def value? (b : UInt8) : Option Nat :=
  if 65 ≤ b && b ≤ 90 then some (b.toNat - 65)
  else if 97 ≤ b && b ≤ 122 then some (b.toNat - 71)
  else if 48 ≤ b && b ≤ 57 then some (b.toNat + 4)
  else if b == 43 then some 62
  else if b == 47 then some 63
  else none

def digit (n : Nat) : UInt8 :=
  if n < 26 then UInt8.ofNat (n + 65)
  else if n < 52 then UInt8.ofNat (n + 71)
  else if n < 62 then UInt8.ofNat (n - 4)
  else if n = 62 then 43
  else 47

def isBlank (b : UInt8) : Bool :=
  b == 32 || (9 ≤ b && b ≤ 13)

/-- The sign that pads the last four digits. -/
def pad : UInt8 := 61

def bytes : List Nat → List UInt8
  | a :: b :: c :: d :: rest =>
    UInt8.ofNat (a * 4 + b / 16) :: UInt8.ofNat (b % 16 * 16 + c / 4) ::
      UInt8.ofNat (c % 4 * 64 + d) :: bytes rest
  | [a, b, c] => [UInt8.ofNat (a * 4 + b / 16), UInt8.ofNat (b % 16 * 16 + c / 4)]
  | [a, b] => [UInt8.ofNat (a * 4 + b / 16)]
  | _ => []

/-- Whether so many digits may be followed by so many padding signs. -/
def isComplete (digits pads : Nat) : Bool :=
  match digits % 4 with
  | 0 => pads == 0
  | 2 => pads == 0 || pads == 2
  | 3 => pads == 0 || pads == 1
  | _ => false

def decode? (text : List UInt8) : Option (List UInt8) :=
  let text := text.filter fun b => !isBlank b
  let pads := text.dropWhile (· != pad)
  match (text.takeWhile (· != pad)).mapM value? with
  | none => none
  | some digits =>
    if pads.all (· == pad) && isComplete digits.length pads.length then some (bytes digits)
    else none

def encode : List UInt8 → List UInt8
  | a :: b :: c :: rest =>
    digit (a.toNat / 4) :: digit (a.toNat % 4 * 16 + b.toNat / 16) ::
      digit (b.toNat % 16 * 4 + c.toNat / 64) :: digit (c.toNat % 64) :: encode rest
  | [a, b] =>
    [digit (a.toNat / 4), digit (a.toNat % 4 * 16 + b.toNat / 16), digit (b.toNat % 16 * 4), pad]
  | [a] => [digit (a.toNat / 4), digit (a.toNat % 4 * 16), pad, pad]
  | [] => []

end VaultPki.Base64

/-!
# The size of numbers

A number that is no integer is kept as a double, a number with 53 binary digits. It is read in two
steps: its digits as an integer of 64 bits, of which the digits that no longer fit are dropped, and
the power of ten behind it. Both are rounded to doubles before they are multiplied, and a number
whose product rounds beyond the greatest double is refused.
-/

namespace VaultPki.Json.Magnitude

/-- Integers of 64 bits. -/
def fits (n : Nat) : Bool :=
  n < UInt64.size

/-- The multiple of `2 ^ shift` next to a number; of two that are equally near, the even one. -/
def nearestMultiple (shift n : Nat) : Nat :=
  let unit := Nat.pow 2 shift
  let q := n / unit
  let r := n % unit
  let up := unit < 2 * r || (2 * r == unit && q % 2 == 1)
  (if up then q + 1 else q) * unit

def nearestDouble (n : Nat) : Nat :=
  nearestMultiple (n.log2 - 52) n

/-- The least number that rounds beyond the greatest double. -/
def overflow : Nat :=
  Nat.pow 2 1024 - Nat.pow 2 970

/-- Whether `digits * 10 ^ scale` is read as a double. Powers beyond the 308th are no doubles
themselves; negative powers only make a number smaller. -/
def isFinite (digits : Nat) (scale : Int) : Bool :=
  digits == 0 || scale < 0 ||
    (scale ≤ 308 && nearestDouble digits * nearestDouble (Nat.pow 10 scale.toNat) < overflow)

/-- Reads digits in front of the point behind `n`; gives the number and how many digits were
dropped. -/
def readWhole (n : Nat) : List Nat → Nat × Nat
  | [] => (n, 0)
  | d :: ds => if fits (n * 10 + d) then readWhole (n * 10 + d) ds else (n, ds.length + 1)

/-- Reads digits behind the point behind `n`; gives the number and how many digits were taken. -/
def readFraction (n : Nat) : List Nat → Nat × Nat
  | [] => (n, 0)
  | d :: ds =>
    if fits (n * 10 + d) then
      let (m, taken) := readFraction (n * 10 + d) ds
      (m, taken + 1)
    else (n, 0)

end VaultPki.Json.Magnitude

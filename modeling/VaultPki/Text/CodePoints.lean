/-!
# Sets of code points

A set of characters as a list of closed ranges of code points.
-/

namespace VaultPki.Text.CodePoints

def within (ranges : List (Nat × Nat)) (c : Char) : Bool :=
  ranges.any fun r => r.1 ≤ c.toNat && c.toNat ≤ r.2

end VaultPki.Text.CodePoints

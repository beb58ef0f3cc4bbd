/-!
# Sets of characters

A set of characters is a list of inclusive ranges of code points.
-/

namespace InputGuard.Unicode

def inRanges (ranges : List (Nat × Nat)) (c : Char) : Bool :=
  ranges.any fun r => r.1 ≤ c.toNat && c.toNat ≤ r.2

end InputGuard.Unicode

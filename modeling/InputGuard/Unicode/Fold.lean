import InputGuard.Unicode.Case

/-!
# Matching without regard to case

Two letters match without regard to case if their lower cases are equal or partners: different
lower-case letters with one upper case.
-/

namespace InputGuard.Unicode

def lowerPartners : List (Nat × List Nat) := [
  (0x69, [0x131]), (0x73, [0x17F]), (0xB5, [0x3BC]), (0x131, [0x69]), (0x17F, [0x73]),
  (0x345, [0x3B9, 0x1FBE]), (0x390, [0x1FD3]), (0x3B0, [0x1FE3]), (0x3B2, [0x3D0]),
  (0x3B5, [0x3F5]), (0x3B8, [0x3D1]), (0x3B9, [0x345, 0x1FBE]), (0x3BA, [0x3F0]),
  (0x3BC, [0xB5]), (0x3C0, [0x3D6]), (0x3C1, [0x3F1]), (0x3C2, [0x3C3]), (0x3C3, [0x3C2]),
  (0x3C6, [0x3D5]), (0x3D0, [0x3B2]), (0x3D1, [0x3B8]), (0x3D5, [0x3C6]), (0x3D6, [0x3C0]),
  (0x3F0, [0x3BA]), (0x3F1, [0x3C1]), (0x3F5, [0x3B5]), (0x432, [0x1C80]), (0x434, [0x1C81]),
  (0x43E, [0x1C82]), (0x441, [0x1C83]), (0x442, [0x1C84, 0x1C85]), (0x44A, [0x1C86]),
  (0x463, [0x1C87]), (0x1C80, [0x432]), (0x1C81, [0x434]), (0x1C82, [0x43E]), (0x1C83, [0x441]),
  (0x1C84, [0x442, 0x1C85]), (0x1C85, [0x442, 0x1C84]), (0x1C86, [0x44A]), (0x1C87, [0x463]),
  (0x1C88, [0xA64B]), (0x1E61, [0x1E9B]), (0x1E9B, [0x1E61]), (0x1FBE, [0x345, 0x3B9]),
  (0x1FD3, [0x390]), (0x1FE3, [0x3B0]), (0xA64B, [0x1C88]), (0xFB05, [0xFB06]),
  (0xFB06, [0xFB05])]

/-- The partners of a lower-case letter. -/
def partners (c : Nat) : List Nat := ((lowerPartners.find? (·.1 == c)).map (·.2)).getD []

/-- The lower-case forms that a lower-case letter matches. -/
def foldClass (c : Nat) : List Nat := c :: partners c

/-- The characters whose lower case is `c`. -/
def lowerSources (c : Nat) : List Nat :=
  let shifted := (lowerRuns.map fun r => ((c : Int) - r.offset).toNat).filter fun d =>
    0x80 ≤ d && (lowerChar (Char.ofNat d)).toNat == c
  let latin := if 0x61 ≤ c && c ≤ 0x7A then [c - 32] else []
  (if (lowerChar (Char.ofNat c)).toNat == c then [c] else []) ++ latin ++ shifted

end InputGuard.Unicode

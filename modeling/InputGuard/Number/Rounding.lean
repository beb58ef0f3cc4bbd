/-!
# Rounding quotients

Quotients of naturals rounded to the nearest integer, and the integer parts of their logarithms.
-/

namespace InputGuard

abbrev twoTo (k : Nat) : Nat := Nat.pow 2 k

abbrev tenTo (k : Nat) : Nat := Nat.pow 10 k

/-- The integer nearest to `n / d`; a tie goes to the even one. -/
def roundQuotient (n d : Nat) : Nat :=
  let q := n / d
  let r := n % d
  if 2 * r < d then q else if d < 2 * r then q + 1 else q + q % 2

/-- Whether `d * base ^ k ≤ n`, for a power of either sign. -/
def powerFits (base n d : Nat) (k : Int) : Bool :=
  if 0 ≤ k then d * Nat.pow base k.toNat ≤ n else d ≤ n * Nat.pow base (-k).toNat

/-- The greatest `k` with `2 ^ k ≤ n / d`, for positive `n` and `d`. -/
def floorLog2 (n d : Nat) : Int :=
  let k : Int := n.log2 - d.log2
  if powerFits 2 n d k then k else k - 1

/-- The number of decimal digits of `n`, at least one. -/
def digitCount (n : Nat) : Nat := (Nat.toDigits 10 n).length

/-- The greatest `k` with `10 ^ k ≤ n / d`, for positive `n` and `d`. -/
def floorLog10 (n d : Nat) : Int :=
  let k : Int := digitCount n - digitCount d
  if powerFits 10 n d k then k else k - 1

end InputGuard

import InputGuard.Number.Rounding

/-!
# Binary64 numbers

Floating-point numbers with 53 bits of precision, kept as exact sign, mantissa and exponent.
Every inexact result goes through `Binary64.ofRatio`, which rounds a quotient of naturals to the
nearest number, ties to the even mantissa.
-/

namespace InputGuard

/-- The mantissas and exponents of the finite numbers: full precision, or the least exponent. -/
def IsNormal (mantissa : Nat) (exponent : Int) : Prop :=
  mantissa < twoTo 53 ∧ -1074 ≤ exponent ∧ exponent ≤ 971 ∧
    (twoTo 52 ≤ mantissa ∨ exponent = -1074)

instance (mantissa : Nat) (exponent : Int) : Decidable (IsNormal mantissa exponent) :=
  inferInstanceAs (Decidable (_ ∧ _))

/-- A finite number `± mantissa * 2 ^ exponent`. -/
structure FiniteBinary where
  negative : Bool
  mantissa : Nat
  exponent : Int
  normal : IsNormal mantissa exponent
  deriving DecidableEq

inductive Binary64
  | nan
  | infinite (negative : Bool)
  | finite (x : FiniteBinary)
  deriving DecidableEq

namespace FiniteBinary

def zero (negative : Bool) : FiniteBinary :=
  ⟨negative, 0, -1074, by decide⟩

/-- The absolute value as a numerator and a positive denominator. -/
def ratio (x : FiniteBinary) : Nat × Nat :=
  if 0 ≤ x.exponent then (x.mantissa * twoTo x.exponent.toNat, 1)
  else (x.mantissa, twoTo (-x.exponent).toNat)

/-- The number as a multiple of the least positive one, `2 ^ -1074`. -/
def scaled (x : FiniteBinary) : Int :=
  let magnitude := x.mantissa * twoTo (x.exponent + 1074).toNat
  if x.negative then -(magnitude : Int) else magnitude

def abs (x : FiniteBinary) : FiniteBinary := { x with negative := false }

def isInteger (x : FiniteBinary) : Bool :=
  let (n, d) := x.ratio
  n % d == 0

/-- The integer part, toward zero. -/
def truncate (x : FiniteBinary) : Int :=
  let (n, d) := x.ratio
  if x.negative then -(n / d : Nat) else (n / d : Nat)

end FiniteBinary

namespace Binary64

/-- A multiple of a power of two that the format has no place for is beyond its range. -/
def ofScaled (negative : Bool) (mantissa : Nat) (exponent : Int) : Binary64 :=
  if h : IsNormal mantissa exponent then .finite ⟨negative, mantissa, exponent, h⟩
  else .infinite negative

/-- The number nearest to `n / d`, for positive `d`. -/
def ofRatio (negative : Bool) (n d : Nat) : Binary64 :=
  if n = 0 then .finite (.zero negative)
  else
    let e := max (-1074) (floorLog2 n d - 52)
    let q :=
      if 0 ≤ e then roundQuotient n (d * twoTo e.toNat)
      else roundQuotient (n * twoTo (-e).toNat) d
    if q = twoTo 53 then ofScaled negative (twoTo 52) (e + 1) else ofScaled negative q e

/-- The number nearest to `coefficient * 10 ^ exponent`. Four hundred places from the point on
either side, the result no longer depends on the digits. -/
def ofDecimal (negative : Bool) (coefficient : Nat) (exponent : Int) : Binary64 :=
  if coefficient = 0 then .finite (.zero negative)
  else
    let top := exponent + digitCount coefficient
    if 400 < top then .infinite negative
    else if top < -400 then .finite (.zero negative)
    else if 0 ≤ exponent then ofRatio negative (coefficient * tenTo exponent.toNat) 1
    else ofRatio negative coefficient (tenTo (-exponent).toNat)

/-- The number nearest to `n`, if it is within range. -/
def ofInt? (n : Int) : Option FiniteBinary :=
  match ofRatio (decide (n < 0)) n.natAbs 1 with
  | .finite x => some x
  | _ => none

end Binary64

end InputGuard

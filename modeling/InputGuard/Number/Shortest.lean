import InputGuard.Number.Binary64

/-!
# Shortest decimal text of binary numbers

A finite number is written with the fewest digits that read back as the same number, and of those
with the ones nearest to it.
-/

namespace InputGuard

/-- The decimal number `coefficient * 10 ^ exponent`. -/
structure Decimal where
  coefficient : Nat
  exponent : Int
  deriving DecidableEq, Repr

namespace Decimal

def dropZeros : Nat → Decimal → Decimal
  | 0, d => d
  | fuel + 1, d =>
    if d.coefficient ≠ 0 ∧ d.coefficient % 10 = 0 then
      dropZeros fuel ⟨d.coefficient / 10, d.exponent + 1⟩
    else d

/-- The same number without trailing zeros; zero has the exponent zero. -/
def normalize (d : Decimal) : Decimal :=
  if d.coefficient = 0 then ⟨0, 0⟩ else dropZeros (digitCount d.coefficient) d

/-- The number of decimal places. -/
def places (d : Decimal) : Nat := (-d.normalize.exponent).toNat

end Decimal

namespace FiniteBinary

def readsBack (x : FiniteBinary) (d : Decimal) : Bool :=
  Binary64.ofDecimal false d.coefficient d.exponent == .finite x.abs

/-- The decimals next to the absolute value of `x` with the last digit at the place `k`, the
nearer one first and of two equally near ones the even one. -/
def neighbours (x : FiniteBinary) (k : Int) : List Decimal :=
  let (n, d) := x.ratio
  let (n, d) := if 0 ≤ k then (n, d * tenTo k.toNat) else (n * tenTo (-k).toNat, d)
  let low := n / d
  let near := roundQuotient n d
  [⟨near, k⟩, ⟨if near = low then low + 1 else low, k⟩]

/-- The shortest decimal that reads back as the absolute value of `x`. Seventeen digits always
do. -/
def shortest (x : FiniteBinary) : Decimal :=
  if x.mantissa = 0 then ⟨0, 0⟩
  else
    let (n, d) := x.ratio
    let top := floorLog10 n d
    let candidates := (List.range 17).flatMap fun (i : Nat) => x.neighbours (top - i)
    ((candidates.find? x.readsBack).getD ⟨n, 0⟩).normalize

end FiniteBinary

/-- How decimals are written: from which exponents on with a power of ten, and the signs and
words used. -/
structure DecimalStyle where
  leastPlain : Int
  greatestPlain : Int
  exponentMark : String
  exponentWidth : Nat
  nan : String
  infinity : String

/-- Plain from `0.0001` up to sixteen digits before the point, always with a digit after the
point; exponents have a sign and two digits at least. -/
def DecimalStyle.standard : DecimalStyle := ⟨-4, 15, "e", 2, "nan", "inf"⟩

def padZeros (width : Nat) (s : String) : String :=
  String.ofList (List.replicate (width - s.length) '0') ++ s

def natText (n : Nat) : String := String.ofList (Nat.toDigits 10 n)

def intText (n : Int) : String := if n < 0 then "-" ++ natText n.natAbs else natText n.natAbs

/-- Digits with the point after the first `point` of them. -/
def placePoint (digits : List Char) (point : Int) : String :=
  if point ≤ 0 then
    "0." ++ String.ofList (List.replicate (-point).toNat '0' ++ digits)
  else
    let p := point.toNat
    let whole := digits.take p ++ List.replicate (p - digits.length) '0'
    let fraction := if p < digits.length then digits.drop p else ['0']
    String.ofList whole ++ "." ++ String.ofList fraction

def DecimalStyle.write (style : DecimalStyle) (d : Decimal) : String :=
  let digits := Nat.toDigits 10 d.coefficient
  let top := d.exponent + digits.length - 1
  if style.leastPlain ≤ top && top ≤ style.greatestPlain then placePoint digits (top + 1)
  else
    let fraction := if digits.length ≤ 1 then "" else "." ++ String.ofList (digits.drop 1)
    let sign := if top < 0 then "-" else "+"
    String.ofList (digits.take 1) ++ fraction ++ style.exponentMark ++ sign ++
      padZeros style.exponentWidth (natText top.natAbs)

namespace Binary64

def textIn (style : DecimalStyle) : Binary64 → String
  | nan => style.nan
  | infinite negative => (if negative then "-" else "") ++ style.infinity
  | finite x => (if x.negative then "-" else "") ++ style.write x.shortest

/-- The text of a number in the standard style. -/
def text (x : Binary64) : String := x.textIn .standard

end Binary64

end InputGuard

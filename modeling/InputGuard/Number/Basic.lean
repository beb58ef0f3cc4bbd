import InputGuard.Number.Numeral

/-!
# Numbers

Integers of any size and binary numbers on one number line. Comparison is exact: a binary number
is compared as the rational that it is, and a number that is not defined has no place on the line.
-/

namespace InputGuard

inductive Number
  | int (n : Int)
  | float (x : Binary64)
  deriving DecidableEq

/-- A place on the number line: beyond all numbers, or at a multiple of `2 ^ -1074`. -/
inductive Place
  | below
  | point (scaled : Int)
  | above
  deriving DecidableEq

def Place.before : Place → Place → Bool
  | below, below => false
  | below, _ => true
  | point a, point b => a < b
  | point _, above => true
  | _, _ => false

/-- The number of least positive numbers in one. -/
def unitScale : Int := twoTo 1074

namespace Number

def place? : Number → Option Place
  | int n => some (.point (n * unitScale))
  | float .nan => none
  | float (.infinite negative) => some (if negative then .below else .above)
  | float (.finite x) => some (.point x.scaled)

def same (a b : Number) : Bool :=
  match a.place?, b.place? with
  | some p, some q => p == q
  | _, _ => false

def lt (a b : Number) : Bool :=
  match a.place?, b.place? with
  | some p, some q => p.before q
  | _, _ => false

def le (a b : Number) : Bool := a.lt b || a.same b

def isZero (a : Number) : Bool := a.same (int 0)

/-- Whether a number is defined and within bounds. -/
def isFinite : Number → Bool
  | int _ => true
  | float (.finite _) => true
  | float _ => false

def isInteger : Number → Bool
  | int _ => true
  | float (.finite x) => x.isInteger
  | float _ => false

/-- The absolute value. -/
def abs : Number → Number
  | int n => int n.natAbs
  | float (.finite x) => float (.finite x.abs)
  | float (.infinite _) => float (.infinite false)
  | float .nan => float .nan

/-- Whether a number can be written: an integer with more digits than can be read cannot. -/
def hasText : Number → Bool
  | int n => digitCount n.natAbs ≤ integerDigitLimit
  | float _ => true

def text : Number → String
  | int n => intText n
  | float x => x.text

/-- The number as a binary one, if it is in range. -/
def toBinary? : Number → Option Binary64
  | int n => (Binary64.ofInt? n).map .finite
  | float x => some x

/-- A thousandth of a number as a binary number, if it is in range. -/
def thousandth? : Number → Option Binary64
  | int n =>
    match Binary64.ofRatio (decide (n < 0)) n.natAbs 1000 with
    | .finite x => some (.finite x)
    | _ => none
  | float (.finite x) =>
    let (n, d) := x.ratio
    some (Binary64.ofRatio x.negative n (d * 1000))
  | float x => some x

/-- The number of decimal places of the text of a number. -/
def decimalPlaces : Number → Nat
  | int _ => 0
  | float (.finite x) => x.shortest.places
  | float _ => 0

/-- The number rounded to `n` decimal places; a tie goes to the even digit. -/
def roundTo (n : Nat) : Number → Number
  | float (.finite x) =>
    let (p, q) := x.ratio
    float (Binary64.ofDecimal x.negative (roundQuotient (p * tenTo n) q) (-n))
  | a => a

/-- The distance below which a number counts as a multiple: the binary number next to `1e-9`. -/
def multipleTolerance : FiniteBinary := ⟨false, 0x112E0BE826D695, -82, by decide⟩

/-- Whether `x` is next to a multiple of `base`. -/
def nearFiniteMultiple (x base : FiniteBinary) : Bool :=
  let r := x.scaled % base.scaled
  min r (base.scaled - r) ≤ multipleTolerance.scaled

/-- Whether the binary number `x` is next to a multiple of the positive `base`. Infinity has only
zero as a multiple. -/
def nearMultiple : Binary64 → Binary64 → Bool
  | .finite x, .finite base => nearFiniteMultiple x base
  | .finite x, .infinite _ => x.abs.scaled ≤ multipleTolerance.scaled
  | _, _ => false

end Number

end InputGuard

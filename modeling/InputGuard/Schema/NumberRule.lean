import InputGuard.Schema.Visit

/-!
# Rules for numbers
-/

namespace InputGuard

/-- How a value is compared with a bound. -/
inductive Bound
  | greater
  | less
  | max
  | min
  deriving DecidableEq, Repr

namespace Bound

def name : Bound → String
  | greater => "greater"
  | less => "less"
  | max => "max"
  | min => "min"

def all : List Bound := [greater, less, max, min]

def ofName? (name : String) : Option Bound := all.find? (·.name == name)

end Bound

inductive Sign
  | negative
  | positive
  deriving DecidableEq, Repr

inductive NumberRule
  | bound (b : Bound) (limit : Number)
  | integer
  | multiple (base : Number)
  | precision (limit : Nat)
  | sign (s : Sign)
  | port
  deriving DecidableEq

namespace NumberRule

def name : NumberRule → String
  | bound b _ => b.name
  | integer => "integer"
  | multiple _ => "multiple"
  | precision _ => "precision"
  | sign _ => "sign"
  | port => "port"

def boundIssue : Bound → Issue
  | .greater => .numberGreater
  | .less => .numberLess
  | .max => .numberMax
  | .min => .numberMin

def withinBound (x limit : Number) : Bound → Bool
  | .greater => limit.lt x
  | .less => x.lt limit
  | .max => x.le limit
  | .min => limit.le x

/-- Refuses a number that does not pass. -/
def require (visit : Visit) (issue : Issue) (x : Number) (particulars : Entries)
    (holds : Bool) : Checked Number :=
  if holds then .ok x else visit.refuse issue (.number x) particulars

/-- Whether a number is next to a multiple of a base, computed in binary numbers. -/
def isMultiple (x base : Number) : Except Fault Bool :=
  match x.toBinary?, base.toBinary? with
  | some a, some b => .ok (Number.nearMultiple a b)
  | _, _ => .error .overflow

/-- The decimal places of a number are counted in its text. -/
def checkPrecision (visit : Visit) (limit : Nat) (x : Number) : Checked Number :=
  if !x.hasText then .error (.fault .badValue)
  else if x.decimalPlaces ≤ limit then .ok x
  else if visit.prefs.convert then .ok (x.roundTo limit)
  else visit.refuse .numberPrecision (.number x) [("limit", .int limit)]

def check (visit : Visit) (x : Number) : NumberRule → Checked Number
  | bound b limit =>
    require visit (boundIssue b) x [("limit", .number limit)] (withinBound x limit b)
  | integer => require visit .numberInteger x [] x.isInteger
  | multiple base => do
    require visit .numberMultiple x [("multiple", .number base)] (← orFault (isMultiple x base))
  | precision limit => checkPrecision visit limit x
  | sign .negative => require visit .numberNegative x [] (!(Number.int 0).le x)
  | sign .positive => require visit .numberPositive x [] (!x.le (.int 0))
  | port =>
    require visit .numberPort x []
      (x.isInteger && (Number.int 0).le x && x.le (.int 65535))

end NumberRule

end InputGuard

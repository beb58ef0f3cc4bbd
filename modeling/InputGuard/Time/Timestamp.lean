import InputGuard.Number.Basic
import InputGuard.Time.Moment

/-!
# Timestamps

A timestamp is a number of seconds from the first midnight of 1970 on a universal clock. Fractions
count to the nearest microsecond.
-/

namespace InputGuard

/-- The seconds from the start of the calendar to the first midnight of 1970. -/
def epochSeconds : Int := 62135596800

def Moment.ofSeconds? (seconds : Int) (micros : Nat) : Option Moment :=
  Moment.ofClock? ((epochSeconds + seconds) * microsPerSecond + micros) (some 0)

/-- The seconds and microseconds of a binary number of seconds. The fraction is taken times a
million as a binary number before it is rounded. -/
def FiniteBinary.toMicros (x : FiniteBinary) : Int × Nat :=
  let (n, d) := x.ratio
  let micros :=
    match Binary64.ofRatio false (n % d * microsPerSecond) d with
    | .finite f => roundQuotient f.ratio.1 f.ratio.2
    | _ => 0
  if x.negative then
    if micros = 0 then (x.truncate, 0) else (x.truncate - 1, microsPerSecond - micros)
  else if micros < microsPerSecond then (x.truncate, micros)
  else (x.truncate + 1, 0)

/-- The moment of a timestamp, if it is within the calendar. -/
def Moment.ofTimestamp? : Number → Option Moment
  | .int n => Moment.ofSeconds? n 0
  | .float (.finite x) => let (s, us) := x.toMicros; Moment.ofSeconds? s us
  | .float _ => none

/-- The units of timestamps. -/
inductive TimeUnit
  | milliseconds
  | seconds
  deriving DecidableEq, Repr

namespace TimeUnit

def name : TimeUnit → String
  | milliseconds => "javascript"
  | seconds => "unix"

def ofName? (name : String) : Option TimeUnit :=
  [milliseconds, seconds].find? (·.name == name)

end TimeUnit

end InputGuard

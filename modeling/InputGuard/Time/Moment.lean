import InputGuard.Time.Calendar
import InputGuard.Number.Shortest

/-!
# Moments

A moment is a clock reading with or without an offset from universal time. The clock is kept in
microseconds from the first midnight of the calendar; offsets are in microseconds too.
-/

namespace InputGuard

def microsPerSecond : Nat := 1000000
def microsPerDay : Nat := 86400 * microsPerSecond

/-- The number of microseconds in the years 1 to 9999. -/
def microLimit : Nat := dayLimit * microsPerDay

structure Moment where
  clock : Nat
  offset : Option Int
  inRange : clock < microLimit
  deriving DecidableEq

/-- Hour, minute, second and microsecond. -/
structure TimeOfDay where
  hour : Nat
  minute : Nat
  second : Nat
  micro : Nat
  deriving DecidableEq, Repr

namespace TimeOfDay

def midnight : TimeOfDay := ⟨0, 0, 0, 0⟩

def isValid (t : TimeOfDay) : Bool :=
  t.hour < 24 && t.minute < 60 && t.second < 60 && t.micro < microsPerSecond

def micros (t : TimeOfDay) : Nat :=
  ((t.hour * 60 + t.minute) * 60 + t.second) * microsPerSecond + t.micro

def ofMicros (n : Nat) : TimeOfDay :=
  let s := n / microsPerSecond
  ⟨s / 3600, s / 60 % 60, s % 60, n % microsPerSecond⟩

end TimeOfDay

namespace Moment

def ofClock? (clock : Int) (offset : Option Int) : Option Moment :=
  if h : 0 ≤ clock ∧ clock.toNat < microLimit then some ⟨clock.toNat, offset, h.2⟩ else none

/-- The moment of a day and a time of that day, if both exist. -/
def ofDay? (d : Day) (t : TimeOfDay) (offset : Option Int) : Option Moment :=
  if t.isValid then ofClock? (d.number * microsPerDay + t.micros : Nat) offset else none

def day (m : Moment) : CivilDate := .ofOrdinal (m.clock / microsPerDay)

def time (m : Moment) : TimeOfDay := .ofMicros (m.clock % microsPerDay)

/-- The reading of a universal clock; a moment without an offset is taken to be universal. -/
def universalClock (m : Moment) : Int := m.clock - m.offset.getD 0

/-- The same moment on a universal clock, unless that is outside the calendar. -/
def toUniversal? (m : Moment) : Option Moment := ofClock? m.universalClock (some 0)

/-- Midnight of a day on a universal clock. -/
def ofDay (d : Day) : Moment where
  clock := d.number * microsPerDay
  offset := some 0
  inRange := Nat.mul_lt_mul_of_pos_right d.inRange (by decide)

/-- Moments with an offset are equal if they are the same moment, moments without one if the clock
reads the same. One of each is never equal. -/
def same (a b : Moment) : Bool :=
  match a.offset, b.offset with
  | none, none => a.clock == b.clock
  | some _, some _ => a.universalClock == b.universalClock
  | _, _ => false

/-- Order of two moments, if both have an offset or neither has. -/
def before? (a b : Moment) : Option Bool :=
  match a.offset, b.offset with
  | none, none => some (a.clock < b.clock)
  | some _, some _ => some (a.universalClock < b.universalClock)
  | _, _ => none

end Moment

def CivilDate.text (d : CivilDate) : String :=
  padZeros 4 (natText d.year) ++ "-" ++ padZeros 2 (natText d.month) ++ "-" ++
    padZeros 2 (natText d.day)

/-- Six digits of a fraction, left out when it is zero. -/
def fractionText (micro : Nat) : String :=
  if micro = 0 then "" else "." ++ padZeros 6 (natText micro)

def TimeOfDay.text (t : TimeOfDay) : String :=
  padZeros 2 (natText t.hour) ++ ":" ++ padZeros 2 (natText t.minute) ++ ":" ++
    padZeros 2 (natText t.second) ++ fractionText t.micro

/-- Hours and minutes of an offset, and its seconds and fraction where they are not zero. -/
def offsetText (offset : Int) : String :=
  let t := TimeOfDay.ofMicros offset.natAbs
  let seconds :=
    if t.second = 0 && t.micro = 0 then ""
    else ":" ++ padZeros 2 (natText t.second) ++ fractionText t.micro
  (if offset < 0 then "-" else "+") ++ padZeros 2 (natText t.hour) ++ ":" ++
    padZeros 2 (natText t.minute) ++ seconds

/-- The text of a moment in the form of ISO 8601. -/
def Moment.text (m : Moment) : String :=
  m.day.text ++ "T" ++ m.time.text ++ ((m.offset.map offsetText).getD "")

end InputGuard

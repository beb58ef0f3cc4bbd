/-!
# The calendar

Days of the proleptic Gregorian calendar, years 1 to 9999. A day is kept by its number, counted
from the first of January of the year 1, and read as year, month and day of the month.
-/

namespace InputGuard

def isLeapYear (y : Nat) : Bool := y % 4 = 0 && (y % 100 ≠ 0 || y % 400 = 0)

/-- The days before the first of January of the year `y`, for positive `y`. -/
def daysBeforeYear (y : Nat) : Nat :=
  let n := y - 1
  365 * n + n / 4 - n / 100 + n / 400

def daysInMonth (y m : Nat) : Nat :=
  if m = 2 then if isLeapYear y then 29 else 28
  else if m = 4 || m = 6 || m = 9 || m = 11 then 30
  else 31

/-- The days of the year `y` before its month `m`. -/
def daysBeforeMonth (y m : Nat) : Nat :=
  ((List.range (m - 1)).map fun i => daysInMonth y (i + 1)).foldl (· + ·) 0

/-- The number of days in the years 1 to 9999. -/
def dayLimit : Nat := 3652059

structure CivilDate where
  year : Nat
  month : Nat
  day : Nat
  deriving DecidableEq, Repr

namespace CivilDate

def IsValid (d : CivilDate) : Prop :=
  (1 ≤ d.year ∧ d.year ≤ 9999) ∧ (1 ≤ d.month ∧ d.month ≤ 12) ∧
    (1 ≤ d.day ∧ d.day ≤ daysInMonth d.year d.month)

instance (d : CivilDate) : Decidable d.IsValid := inferInstanceAs (Decidable (_ ∧ _))

/-- The number of a day, zero for the first of January of the year 1. -/
def ordinal (d : CivilDate) : Nat :=
  daysBeforeYear d.year + daysBeforeMonth d.year d.month + (d.day - 1)

/-- The year that a day belongs to. The mean length of a year points to it or to the one after. -/
def yearOf (n : Nat) : Nat :=
  let guess := n * 400 / 146097 + 1
  if n < daysBeforeYear guess then guess - 1
  else if daysBeforeYear (guess + 1) ≤ n then guess + 1 else guess

/-- The month of the year `y` that its day number `n` belongs to, searched from month `m` on. -/
def monthFrom (y : Nat) : Nat → Nat → Nat → Nat × Nat
  | 0, m, n => (m, n)
  | fuel + 1, m, n =>
    if n < daysInMonth y m then (m, n) else monthFrom y fuel (m + 1) (n - daysInMonth y m)

def ofOrdinal (n : Nat) : CivilDate :=
  let y := yearOf n
  let (m, k) := monthFrom y 11 1 (n - daysBeforeYear y)
  ⟨y, m, k + 1⟩

/-- The day of the week of a day number, zero for Monday. -/
def weekday (n : Nat) : Nat := n % 7

/-- The Monday of the first week of a year, the week with the first Thursday. The first year of
all starts on such a Monday. -/
def firstMonday (y : Nat) : Nat :=
  let first := daysBeforeYear y
  let w := weekday first
  if 3 < w then first + (7 - w) else first - w

/-- Years that start on a Thursday, and leap years that start on a Wednesday, have 53 weeks. -/
def weeksInYear (y : Nat) : Nat :=
  let w := weekday (daysBeforeYear y)
  if w = 3 || (w = 2 && isLeapYear y) then 53 else 52

/-- The number of a day given by year, week and day of the week, one for Monday. -/
def ofWeek? (y week day : Nat) : Option Nat :=
  if 1 ≤ y && y ≤ 9999 && 1 ≤ week && week ≤ weeksInYear y && 1 ≤ day && day ≤ 7 then
    let n := firstMonday y + (week - 1) * 7 + (day - 1)
    if n < dayLimit then some n else none
  else none

end CivilDate

/-- A calendar day. -/
structure Day where
  number : Nat
  inRange : number < dayLimit
  deriving DecidableEq

def Day.ofNumber? (n : Nat) : Option Day := if h : n < dayLimit then some ⟨n, h⟩ else none

def Day.ofDate? (d : CivilDate) : Option Day :=
  if d.IsValid then Day.ofNumber? d.ordinal else none

def Day.date (d : Day) : CivilDate := .ofOrdinal d.number

end InputGuard

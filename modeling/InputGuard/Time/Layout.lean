import InputGuard.Text.Reading
import InputGuard.Time.Moment
import InputGuard.Unicode.Blank
import InputGuard.Unicode.Digit

/-!
# Common layouts of dates

Dates with the parts in other orders than that of ISO 8601, with or without a time of day. A blank
of a layout stands for one blank or more.
-/

namespace InputGuard

open Unicode Reading

namespace Layout

/-- The parts of a date as they are read; those that a layout does not have keep their values. -/
structure Parts where
  date : CivilDate
  time : TimeOfDay

def digit : Reading Nat := fun s =>
  match s with
  | c :: rest => ((decimalValue? c).map fun n => (n, rest)).toList
  | [] => []

def basicDigit (lo hi : Char) : Reading Nat := do
  let c ← charThat fun c => lo ≤ c && c ≤ hi
  return c.toNat - 48

def twoDigits (first second : Reading Nat) : Reading Nat := do
  return 10 * (← first) + (← second)

def month : Reading Nat :=
  either (twoDigits (basicDigit '1' '1') (basicDigit '0' '2'))
    (either (twoDigits (basicDigit '0' '0') (basicDigit '1' '9')) (basicDigit '1' '9'))

def day : Reading Nat :=
  either (twoDigits (basicDigit '3' '3') (basicDigit '0' '1'))
    (either (twoDigits (basicDigit '1' '2') digit)
      (either (twoDigits (basicDigit '0' '0') (basicDigit '1' '9'))
        (either (basicDigit '1' '9')
          (do
            let _ ← char ' '
            basicDigit '1' '9'))))

def year : Reading Nat := do
  return 100 * (← twoDigits digit digit) + (← twoDigits digit digit)

def hour : Reading Nat :=
  either (twoDigits (basicDigit '2' '2') (basicDigit '0' '3'))
    (either (twoDigits (basicDigit '0' '1') digit) digit)

def minute : Reading Nat := either (twoDigits (basicDigit '0' '5') digit) digit

def blanks : Reading Unit := oneOrMore isBlank

/-- A word, capitals or not. -/
def word : List Char → Reading Unit
  | [] => pure ()
  | c :: rest => do
    let _ ← charThat fun d => d.toLower == c
    word rest

def oneOf : List (String × Nat) → Reading Nat
  | [] => fun _ => []
  | (name, n) :: rest => either (do word name.toList; return n) (oneOf rest)

def monthNames : List String :=
  ["january", "february", "march", "april", "may", "june", "july", "august", "september",
    "october", "november", "december"]

def monthName : Reading Nat := oneOf (monthNames.zipIdx 1)

/-- Universal time under either of its names. -/
def zone : Reading Nat := oneOf [("utc", 0), ("gmt", 0)]

def skip (c : Char) : Reading Unit := do
  let _ ← char c

def dateOnly (y m d : Nat) : Parts := ⟨⟨y, m, d⟩, .midnight⟩

def monthDayYear (sep : Char) : Reading Parts := do
  let m ← month
  skip sep
  let d ← day
  skip sep
  return dateOnly (← year) m d

def yearMonthDay (sep : Char) : Reading Parts := do
  let y ← year
  skip sep
  let m ← month
  skip sep
  return dateOnly y m (← day)

def dayMonthYear : Reading Parts := do
  let d ← day
  blanks
  let m ← monthName
  blanks
  return dateOnly (← year) m d

def dayMonthYearTime : Reading Parts := do
  let parts ← dayMonthYear
  blanks
  let h ← hour
  skip ':'
  return { parts with time := ⟨h, ← minute, 0, 0⟩ }

def dayMonthYearTimeZone : Reading Parts := do
  let parts ← dayMonthYearTime
  blanks
  let _ ← zone
  return parts

def namedMonthDayYear : Reading Parts := do
  let m ← monthName
  blanks
  let d ← day
  skip ','
  blanks
  return dateOnly (← year) m d

/-- The layouts in the order in which they are tried. -/
def all : List (Reading Parts) :=
  [monthDayYear '-', monthDayYear '/', yearMonthDay '/', dayMonthYearTimeZone, dayMonthYearTime,
    dayMonthYear, namedMonthDayYear]

/-- The parts that a layout finds, if the first way to read the text leaves nothing over. -/
def parse? (layout : Reading Parts) (s : List Char) : Option Parts :=
  match (layout s).head? with
  | some (parts, []) => some parts
  | _ => none

def Parts.moment? (p : Parts) : Option Moment := do
  Moment.ofDay? (← Day.ofDate? p.date) p.time none

end Layout

/-- The moment that a text denotes in the first layout that fits. -/
def Moment.readLayout? (s : List Char) : Option Moment :=
  Layout.all.findSome? fun layout => (Layout.parse? layout s).bind Layout.Parts.moment?

end InputGuard

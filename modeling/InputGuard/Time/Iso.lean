import InputGuard.Time.Moment
import InputGuard.Text.Reading
import InputGuard.Unicode.Blank
import InputGuard.Unicode.Digit
import InputGuard.Unicode.Word

/-!
# Dates and times of ISO 8601

`Moment.readIso?` reads a date, of months or of weeks, and after any one character a time of day
with an optional offset. `isIsoForm` and `isDateText` hold of two narrower classes of texts.
-/

namespace InputGuard

/-- The first character, or the null character at the end. -/
def peek (s : List Char) : Char := s.headD '\x00'

/-- A numeral of exactly `n` digits. -/
def takeDigits? : Nat → Nat → List Char → Option (Nat × List Char)
  | 0, value, s => some (value, s)
  | n + 1, value, s =>
    if (peek s).isDigit then takeDigits? n (10 * value + ((peek s).toNat - 48)) s.tail else none

/-- The length of the date at the start of a text. With a `W` in it, it is a date of weeks, which
ends with the week or with a day of the week. Of digits that go on without a break an even number
belongs to the time. -/
def isoDateLength? (s : List Char) : Option Nat :=
  if s.length = 7 then some 7
  else if s[4]? = some '-' then
    if s[5]? = some 'W' then
      if s[8]? = some '-' then
        if s.length = 9 then none
        else if (s[10]?.map Char.isDigit).getD false then some 8 else some 10
      else some 8
    else some 10
  else if s[4]? = some 'W' then
    let stop := 7 + ((s.drop 7).takeWhile Char.isDigit).length
    if stop < 9 then some stop else if stop % 2 = 0 then some 7 else some 8
  else some 8

/-- The day that a text starts with, given the length of its date. -/
def isoDay? (s : List Char) (length : Nat) : Option Day := do
  let (year, s) ← takeDigits? 4 0 s
  let dashed := peek s == '-'
  let s := if dashed then s.tail else s
  let dash (s : List Char) : Option (List Char) :=
    if dashed then (if peek s = '-' then some s.tail else none) else some s
  if peek s = 'W' then
    let (week, s) ← takeDigits? 2 0 s.tail
    let weekday ←
      if 7 + dashed.toNat < length then do pure (← takeDigits? 1 0 (← dash s)).1 else pure 1
    Day.ofNumber? (← CivilDate.ofWeek? year week weekday)
  else
    let (month, s) ← takeDigits? 2 0 s
    let (day, _) ← takeDigits? 2 0 (← dash s)
    Day.ofDate? ⟨year, month, day⟩

/-- Hours, minutes, seconds and fraction as far as they are written, and whether nothing
follows. -/
structure ClockText where
  time : TimeOfDay
  complete : Bool

def TimeOfDay.set (t : TimeOfDay) : Nat → Nat → TimeOfDay
  | 0, v => { t with hour := v }
  | 1, v => { t with minute := v }
  | _, v => { t with second := v }

/-- A fraction of a second, of which six digits count. `left` is the number of characters before
the offset. -/
def readFraction? (t : TimeOfDay) (s : List Char) (left : Nat) : Option ClockText := do
  let n := min 6 left
  let (value, s) ← takeDigits? n 0 s
  let rest := s.dropWhile Char.isDigit
  return ⟨{ t with micro := value * tenTo (6 - n) }, peek rest == '\x00'⟩

/-- Whether a clock ends where `left` characters of it remain, of which `c` is the first: there may
be one more, of a single byte, before its end is looked for. -/
def endsClock (left : Int) (c : Char) : Bool := left ≤ 0 || (left = 1 && c.utf8Size = 1)

/-- The parts of a time of day from number `i` on, with a colon between all or none of them. -/
def readClock? : Nat → Nat → Bool → TimeOfDay → List Char → Int → Option ClockText
  | 0, _, _, t, s, left => readFraction? t s left.toNat
  | n + 1, i, colons, t, s, left => do
    let (v, s) ← takeDigits? 2 0 s
    let t := t.set i v
    let c := peek s
    let colons := if i = 0 then c == ':' else colons
    if endsClock (left - 2) c then some ⟨t, c == '\x00'⟩
    else if colons && c = ':' then readClock? n (i + 1) colons t s.tail (left - 3)
    else if c = '.' || c = ',' then readFraction? t s.tail (left - 3).toNat
    else if !colons then readClock? n (i + 1) colons t s (left - 2)
    else none

def isOffsetStart (c : Char) : Bool := c = '+' || c = '-' || c = 'Z'

/-- The offset that a sign and a clock text stand for. Without whole seconds it is zero; a day or
more is no offset. -/
def offsetOf? (negative : Bool) (t : TimeOfDay) : Option Int :=
  let seconds := (t.hour * 60 + t.minute) * 60 + t.second
  let micros := seconds * microsPerSecond + t.micro
  if seconds = 0 then some 0
  else if micros < microsPerDay then some (if negative then -(micros : Int) else micros)
  else none

/-- A time of day with an optional offset. -/
def isoTime? (s : List Char) : Option (TimeOfDay × Option Int) := do
  let clock := s.takeWhile fun c => !isOffsetStart c
  let text ← readClock? 3 0 true .midnight s clock.length
  match s.drop clock.length with
  | [] => if text.complete then some (text.time, none) else none
  | 'Z' :: rest => if peek rest = '\x00' then some (text.time, some 0) else none
  | sign :: rest =>
    let offset ← readClock? 3 0 true .midnight rest rest.length
    if offset.complete then some (text.time, some (← offsetOf? (sign == '-') offset.time))
    else none

/-- The moment that a text in the form of ISO 8601 denotes. -/
def Moment.readIso? (s : List Char) : Option Moment := do
  if s.length < 7 then none
  let length ← isoDateLength? s
  let day ← isoDay? s length
  let (time, offset) ← match s.drop length with
    | [] => pure (TimeOfDay.midnight, none)
    | _ :: rest => isoTime? rest
  Moment.ofDay? day time offset

/-- The text with a zero offset in the place of every `Z`. -/
def spellZulu (s : List Char) : List Char :=
  s.flatMap fun c => if c = 'Z' then ['+', '0', '0', ':', '0', '0'] else [c]

open Unicode Reading

namespace IsoForm

def digitIn (lo hi : Char) : Reading Unit := do
  let _ ← charThat fun c => lo ≤ c && c ≤ hi

def digit : Reading Unit := do
  let _ ← charThat isDecimal

def skip (c : Char) : Reading Unit := do
  let _ ← char c

def maybe (r : Reading Unit) : Reading Unit := do
  let _ ← optional r

/-- Two digits and then the end of a word. -/
def twoDigitsEndWord : List Char → Bool
  | a :: b :: rest => isDecimal a && isDecimal b && !((rest.head?.map isWord).getD false)
  | _ => false

def signedCentury : Reading Unit := do
  let _ ← charThat fun c => c = '-' || c = '+'
  exactly isDecimal 2

def year : Reading Unit := do
  maybe signedCentury
  exactly isDecimal 4
  refuse twoDigitsEndWord

def month : Reading Unit :=
  either (do skip '0'; digitIn '1' '9') (do skip '1'; digitIn '0' '2')

def dayOfMonth : Reading Unit :=
  either (do digitIn '1' '2'; digit)
    (either (do skip '0'; digitIn '1' '9') (do skip '3'; digitIn '0' '1'))

def week : Reading Unit := do
  skip 'W'
  either (do digitIn '0' '4'; digit) (do skip '5'; digitIn '0' '2')
  maybe do
    maybe (skip '-')
    digitIn '1' '7'

def dayOfYear : Reading Unit :=
  either (do skip '0'; skip '0'; digitIn '1' '9')
    (either (do skip '0'; digitIn '1' '9'; digit)
      (either (do digitIn '1' '2'; exactly isDecimal 2)
        (do skip '3'; either (do digitIn '0' '5'; digit) (do skip '6'; digitIn '1' '6'))))

/-- A month with a day, or a week, or a day of the year, with the dash before it if there is
one. -/
def dayPart : Reading Unit := do
  let dash ← optional (char '-')
  either
    (do
      month
      maybe do
        if dash.isSome then skip '-'
        dayOfMonth)
    (either week dayOfYear)

def hour : Reading Unit :=
  either (do digitIn '0' '1'; digit) (do skip '2'; digitIn '0' '3')

def sixty : Reading Unit := do
  digitIn '0' '5'
  digit

def fraction : Reading Unit := do
  let _ ← charThat fun c => c = '.' || c = ','
  oneOrMore isDecimal

/-- An hour with its minutes, or the end of the day; the colon before the minutes, if minutes are
there. -/
def hourMinute : Reading (Option Bool) :=
  either
    (do
      hour
      either
        (do
          let colon ← optional (char ':')
          sixty
          pure (some colon.isSome))
        (pure none))
    (do
      skip '2'
      skip '4'
      maybe (skip ':')
      skip '0'
      skip '0'
      pure none)

def zone : Reading Unit :=
  either (skip 'Z')
    (do
      let _ ← charThat fun c => c = '+' || c = '-'
      hour
      maybe do
        maybe (skip ':')
        sixty)

def timePart : Reading Unit := do
  let _ ← charThat fun c => c = 'T' || isBlank c
  let colon ← hourMinute
  maybe do
    fraction
    refuse fun s => peek s == ':'
  if let some c := colon then
    maybe do
      if c then skip ':'
      sixty
      maybe fraction
  maybe zone

/-- A time without separators is no time if it ends with the letter for universal time, and
neither is a lone `T`. -/
def bareTime : List Char → Bool
  | 'T' :: rest =>
    let after := rest.dropWhile isDecimal
    rest.isEmpty || rest == ['\n'] ||
      (after.length < rest.length && (after == ['Z'] || after == ['Z', '\n']))
  | _ => false

def whole : Reading Unit := do
  year
  maybe do
    dayPart
    refuse bareTime
    maybe timePart

/-- The zone that a text of a date and a time may end with. -/
def plainZone : Reading Unit :=
  either (skip 'Z')
    (do
      let _ ← charThat fun c => c = '+' || c = '-'
      exactly isDecimal 2
      maybe do
        maybe (skip ':')
        exactly isDecimal 2)

def plainTime : Reading Unit := do
  skip 'T'
  exactly isDecimal 2
  skip ':'
  exactly isDecimal 2
  maybe do
    skip ':'
    exactly isDecimal 2
    maybe do
      skip '.'
      oneOrMore isDecimal
  maybe plainZone

def plainDate : Reading Unit := do
  exactly isDecimal 4
  skip '-'
  exactly isDecimal 2
  skip '-'
  exactly isDecimal 2
  maybe plainTime

end IsoForm

/-- The form of an ISO 8601 date, with or without a time. -/
def isIsoForm (s : List Char) : Bool := IsoForm.whole.accepts s

/-- The form of a date with dashes, with or without a time with colons. -/
def isDateText (s : List Char) : Bool := IsoForm.plainDate.accepts s

end InputGuard

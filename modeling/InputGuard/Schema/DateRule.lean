import InputGuard.Schema.NumberRule
import InputGuard.Time.Iso
import InputGuard.Time.Layout
import InputGuard.Time.Timestamp

/-!
# Dates and their rules

`Value.toMoment` reads a value as a moment on a universal clock: a date, a timestamp, or a text of
either kind.
-/

namespace InputGuard

/-- What a date may be converted from, if that is restricted. -/
inductive DateFormat
  | iso
  | timestamp (unit : TimeUnit)
  deriving DecidableEq, Repr

namespace DateFormat

def name : DateFormat → String
  | iso => "iso"
  | timestamp unit => unit.name

def issue : DateFormat → Issue
  | iso => .dateFormatIso
  | timestamp .milliseconds => .dateFormatMilliseconds
  | timestamp .seconds => .dateFormatSeconds

end DateFormat

open Unicode

/-- A moment on a universal clock. -/
def Moment.universal (m : Moment) : Except Fault Moment :=
  match m.toUniversal? with
  | some u => .ok u
  | none => .error .overflow

/-- The moment of a timestamp in some unit, if it is within the calendar. -/
def timestampMoment (unit : TimeUnit) (x : Number) : Except Fault (Option Moment) :=
  match unit with
  | .seconds => .ok (Moment.ofTimestamp? x)
  | .milliseconds =>
    match x.thousandth? with
    | some s => .ok (Moment.ofTimestamp? (.float s))
    | none => .error .overflow

/-- A numeral of digits with or without a fraction, with blanks around it. -/
def isTimestampText (s : List Char) : Bool :=
  let t := s.dropWhile isBlank
  let t := if t.head? = some '-' || t.head? = some '+' then t.tail else t
  let rest := t.dropWhile isDecimal
  let fraction := if rest.head? = some '.' then rest.tail else []
  let after := fraction.dropWhile isDecimal
  rest.length < t.length &&
    (if after.length < fraction.length then after else rest).all isBlank

def timestampText (unit : TimeUnit) (s : String) : Except Fault (Option Moment) :=
  match Binary64.read? s with
  | some x => timestampMoment unit (.float x)
  | none => .error .badValue

/-- The moment of an ISO 8601 text; `Z` stands for a zero offset. -/
def isoText (s : List Char) : Except Fault (Option Moment) :=
  match Moment.readIso? (spellZulu (trim s)) with
  | some m => some <$> m.universal
  | none => .ok none

def dateText (format : Option DateFormat) (s : String) : Except Fault (Option Moment) :=
  match format with
  | some .iso => if isIsoForm s.toList then isoText s.toList else .ok none
  | some (.timestamp unit) =>
    if isTimestampText s.toList then timestampText unit s else .ok none
  | none =>
    if isTimestampText s.toList then timestampText .milliseconds s
    else do
      match ← isoText s.toList with
      | some m => return some m
      | none =>
        match Moment.readLayout? (trim s.toList) with
        | some m => some <$> m.universal
        | none => return none

/-- The moment that a value stands for, if it stands for one. -/
def Value.toMoment (format : Option DateFormat) : Value → Except Fault (Option Moment)
  | .moment m => some <$> m.universal
  | .day d => .ok (some (.ofDay d))
  | .number x =>
    match format with
    | some .iso => .ok none
    | some (.timestamp unit) => timestampMoment unit x
    | none => timestampMoment .milliseconds x
  | .str s => dateText format s
  | _ => .ok none

/-- A bound for dates; `now` is the time of the check. -/
inductive DateLimit
  | now
  | moment (m : Moment)
  deriving DecidableEq

structure DateRule where
  bound : Bound
  limit : DateLimit
  deriving DecidableEq

namespace DateRule

def name (r : DateRule) : String := r.bound.name

def issue : Bound → Issue
  | .greater => .dateGreater
  | .less => .dateLess
  | .max => .dateMax
  | .min => .dateMin

def withinBound (m limit : Moment) : Bound → Bool
  | .greater => limit.universalClock < m.universalClock
  | .less => m.universalClock < limit.universalClock
  | .max => m.universalClock ≤ limit.universalClock
  | .min => limit.universalClock ≤ m.universalClock

def check (visit : Visit) (m : Moment) (r : DateRule) : Checked Moment :=
  let limit := match r.limit with
    | .now => visit.env.now
    | .moment l => l
  if withinBound m limit r.bound then .ok m
  else visit.refuse (issue r.bound) (.moment m) [("limit", .moment limit)]

end DateRule

end InputGuard

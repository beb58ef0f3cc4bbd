import InputGuard.Value.Basic
import InputGuard.Text.Basic
import InputGuard.Text.Quoted

/-!
# Texts of values

`Value.exact` writes a value with every detail, `Value.plain` writes a text as it stands and other
values exactly, and `Value.shown` is the form of a value in messages.
-/

namespace InputGuard

def boolText (b : Bool) : String := if b then "True" else "False"

/-- A length of time in days, seconds and microseconds, of which only the days may be negative. -/
def durationText (micros : Int) : String :=
  let days := micros.fdiv microsPerDay
  let rest := (micros.fmod microsPerDay).toNat
  let seconds := rest / microsPerSecond
  let micro := rest % microsPerSecond
  let parts :=
    (if days = 0 then [] else ["days=" ++ intText days]) ++
      (if seconds = 0 then [] else ["seconds=" ++ natText seconds]) ++
      (if micro = 0 then [] else ["microseconds=" ++ natText micro])
  "datetime.timedelta(" ++ (if parts.isEmpty then "0" else joinText ", " parts) ++ ")"

def zoneText (offset : Int) : String :=
  if offset = 0 then "datetime.timezone.utc"
  else "datetime.timezone(" ++ durationText offset ++ ")"

def dateNumbers (d : CivilDate) : List String := [natText d.year, natText d.month, natText d.day]

def Day.exact (d : Day) : String := "datetime.date(" ++ joinText ", " (dateNumbers d.date) ++ ")"

/-- The numbers of a moment; seconds and microseconds are left out at the end where they are
zero. -/
def Moment.exact (m : Moment) : String :=
  let t := m.time
  let last :=
    if t.micro ≠ 0 then [natText t.second, natText t.micro]
    else if t.second ≠ 0 then [natText t.second] else []
  let numbers := dateNumbers m.day ++ [natText t.hour, natText t.minute] ++ last
  let zone := (m.offset.map fun o => ["tzinfo=" ++ zoneText o]).getD []
  "datetime.datetime(" ++ joinText ", " (numbers ++ zone) ++ ")"

def PatternFlags.names (f : PatternFlags) : List String :=
  (if f.ignoreCase then ["re.IGNORECASE"] else []) ++
    (if f.multiline then ["re.MULTILINE"] else []) ++
    (if f.dotAll then ["re.DOTALL"] else []) ++
    (if f.verbose then ["re.VERBOSE"] else []) ++
    (if f.ascii then ["re.ASCII"] else [])

/-- The source of a pattern, cut after two hundred characters, and its flags. -/
def Pattern.exact (p : Pattern) : String :=
  let source := String.ofList ((quoted p.source).toList.take 200)
  let flags := if p.flags.names.isEmpty then [] else [joinText "|" p.flags.names]
  "re.compile(" ++ joinText ", " (source :: flags) ++ ")"

namespace Value

mutual

def exact : Value → String
  | null => "None"
  | bool b => boolText b
  | number x => x.text
  | str s => quoted s
  | list items => "[" ++ joinText ", " (exactItems items) ++ "]"
  | object entries => "\x7b" ++ joinText ", " (exactEntries entries) ++ "\x7d"
  | moment m => m.exact
  | day d => d.exact
  | pattern p => p.exact

def exactItems : List Value → List String
  | [] => []
  | v :: rest => exact v :: exactItems rest

def exactEntries : List (String × Value) → List String
  | [] => []
  | (k, v) :: rest => (quoted k ++ ": " ++ exact v) :: exactEntries rest

end

mutual

/-- Whether a value can be written: all numbers in it can. -/
def hasText : Value → Bool
  | number x => x.hasText
  | list items => itemsHaveText items
  | object entries => entriesHaveText entries
  | _ => true

def itemsHaveText : List Value → Bool
  | [] => true
  | v :: rest => hasText v && itemsHaveText rest

def entriesHaveText : List (String × Value) → Bool
  | [] => true
  | (_, v) :: rest => hasText v && entriesHaveText rest

end

def plain : Value → String
  | str s => s
  | moment m =>
    m.day.text ++ " " ++ m.time.text ++ ((m.offset.map offsetText).getD "")
  | day d => d.date.text
  | v => v.exact

mutual

/-- Lists in brackets without quotes, truth values in small letters, dates as ISO 8601. -/
def shown : Value → String
  | list items => "[" ++ joinText ", " (shownItems items) ++ "]"
  | bool b => if b then "true" else "false"
  | moment m => m.text
  | v => v.plain

def shownItems : List Value → List String
  | [] => []
  | v :: rest => shown v :: shownItems rest

end

end Value

end InputGuard

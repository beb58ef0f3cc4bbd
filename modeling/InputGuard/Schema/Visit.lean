import InputGuard.Fault
import InputGuard.Schema.Issue
import InputGuard.Text.Encoding

/-!
# Visits

A visit is what is known while a value is checked: the path that leads to it, the preferences in
effect there, and the environment of the check. A value that is not accepted is refused with one
detail, which names the issue and the place.
-/

namespace InputGuard

/-! ## Paths -/

/-- A step from a value to a part of it. -/
inductive Step
  | key (name : String)
  | index (i : Int)
  deriving DecidableEq, Repr

abbrev Path := List Step

def Step.value : Step → Value
  | key name => .str name
  | index i => .int i

/-- The label of a path after the label of its first steps. -/
def labelFrom (label : String) : Path → String
  | [] => label
  | .index i :: rest => labelFrom (label ++ "[" ++ intText i ++ "]") rest
  | .key name :: rest => labelFrom (if label = "" then name else label ++ "." ++ name) rest

/-- A path as text; the root is called `value`. -/
def Path.label (path : Path) : String :=
  let label := labelFrom "" path
  if label = "" then "value" else label

/-! ## Details and refusals -/

structure Detail where
  message : String
  path : Path
  code : String
  context : Entries

/-- Why a value is not accepted: an issue with it, or a fault. -/
inductive Refusal
  | issue (detail : Detail)
  | fault (f : Fault)

abbrev Checked (α : Type) := Except Refusal α

/-- A computation that may end with a fault, as part of a check. -/
def orFault {α : Type} : Except Fault α → Checked α
  | .ok a => .ok a
  | .error f => .error (.fault f)

/-! ## Preferences -/

/-- Whether values may be converted, and whether objects may have keys without a schema. -/
structure Preferences where
  convert : Bool
  allowUnknown : Bool
  deriving DecidableEq, Repr

namespace Preferences

/-- One preference after an override, if there is one. -/
def override (key : String) (overrides : Entries) (current : Bool) : Bool :=
  match lookup? key overrides with
  | some v => v.truthy
  | none => current

def merge (p : Preferences) (overrides : Entries) : Preferences where
  convert := override "convert" overrides p.convert
  allowUnknown := override "allow_unknown" overrides p.allowUnknown

/-- Whether an override names a preference. -/
def names (overrides : Entries) : Bool :=
  hasKey "convert" overrides || hasKey "allow_unknown" overrides

end Preferences

/-! ## Visits -/

/-- What a check finds around it: the time, and the encodings that are known. -/
structure Environment where
  now : Moment
  codecs : Codecs

/-- The first midnight of the calendar, with the encodings of Unicode. -/
def Environment.epoch : Environment := ⟨⟨0, none, by decide⟩, .unicode⟩

structure Visit where
  path : Path
  prefs : Preferences
  env : Environment

namespace Visit

def down (visit : Visit) (step : Step) : Visit := { visit with path := visit.path ++ [step] }

def label (visit : Visit) : String := visit.path.label

/-- The context of an issue: label and value, the particulars, and the last step of the path. -/
def context (visit : Visit) (value : Value) (particulars : Entries) : Entries :=
  let base := ("label", .str visit.label) :: ("value", value) :: particulars
  match visit.path.getLast? with
  | some step => base ++ [("key", step.value)]
  | none => base

def detail (visit : Visit) (issue : Issue) (value : Value) (particulars : Entries) : Detail :=
  let context := visit.context value particulars
  ⟨issue.message context, visit.path, issue.code, context⟩

/-- Refuses a value. There is a detail also where an integer has too many digits for its message to be
written, which `Value.hasText` tells. -/
def refuse {α : Type} (visit : Visit) (issue : Issue) (value : Value)
    (particulars : Entries) : Checked α :=
  .error (.issue (visit.detail issue value particulars))

end Visit

end InputGuard

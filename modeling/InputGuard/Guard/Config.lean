import InputGuard.Value.Order
import InputGuard.Value.Text

/-!
# Configurations

The settings of a guard: the name of its directives, the preferences it starts from, and the code
of refused calls.
-/

namespace InputGuard

structure Config where
  directive : String
  allowUnknown : Bool
  convert : Bool
  errorCode : String
  deriving DecidableEq, Repr

namespace Config

def default : Config := ⟨"validate", true, false, "BAD_USER_INPUT"⟩

/-- A name of basic Latin letters, digits and underscores that does not start with a digit. -/
def isName (s : String) : Bool :=
  match s.toList with
  | [] => false
  | c :: rest => (c.isAlpha || c = '_') && rest.all fun d => d.isAlphanum || d = '_'

/-- Words that say yes, in small letters. -/
def yesWords : List String := ["1", "t", "y", "on", "yes", "true"]

def noWords : List String := ["0", "f", "n", "no", "off", "false"]

/-- The truth value that a setting stands for: itself, a word, or one or zero. -/
def switch? (v : Value) : Option Bool :=
  match v with
  | .bool b => some b
  | .str s =>
    let word := String.ofList (s.toList.map Char.toLower)
    if yesWords.contains word then some true
    else if noWords.contains word then some false else none
  | .number x => if x.same (.int 1) then some true else if x.isZero then some false else none
  | _ => none

def text? (v : Value) : Option String :=
  match v with
  | .str s => some s
  | _ => none

/-- A setting under a name, or the default. -/
def setting {α : Type} (name : String) (read? : Value → Option α) (default : α)
    (entries : Entries) : Option α :=
  match lookup? name entries with
  | some v => read? v
  | none => some default

/-- The configuration with some settings, if they are all valid. -/
def ofEntries? (entries : Entries) : Option Config := do
  let directive ← setting "directive_name" text? default.directive entries
  let allowUnknown ← setting "allow_unknown" switch? default.allowUnknown entries
  let convert ← setting "convert" switch? default.convert entries
  let errorCode ← setting "error_code" text? default.errorCode entries
  if isName directive then return ⟨directive, allowUnknown, convert, errorCode⟩ else none

end Config

end InputGuard

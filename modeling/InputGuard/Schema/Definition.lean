import InputGuard.Pattern.Reader
import InputGuard.Schema.Basic
import InputGuard.Value.Options

/-!
# Definition errors

An operation on a schema may be refused: its arguments do not make a rule. The arguments are
values, since they come from directives.
-/

namespace InputGuard

/-- Why the arguments of an operation do not make a rule. -/
inductive DefinitionError
  | preferences
  | letterCase (given : Value)
  | normalForm
  | limit (rule : String)
  | guidVersion (given : Value)
  | cidr (given : Value)
  | addressVersion (given : Value)
  | notNumber (rule : String) (given : Value)
  | multipleBase
  | precision
  | sign (given : Value)
  | timeUnit (given : Value)
  | dateLimit (rule : String) (given : Value)
  | itemSchema
  | sortOrder (given : Value)
  | noPeers (rule : String)
  | peer (rule : String) (given : Value)
  | patternFlag (given : Value)

namespace DefinitionError

def message : DefinitionError → String
  | preferences => "prefs must be given as a mapping"
  | letterCase v => "Invalid case: " ++ v.exact
  | normalForm =>
    "normalization form must be one of " ++
      joinText ", " (Unicode.NormalForm.all.map (·.name))
  | limit rule => rule ++ " limit must be a positive integer"
  | guidVersion v => "Invalid GUID version: " ++ v.exact
  | cidr v => "Invalid ip cidr: " ++ v.exact
  | addressVersion v => "Invalid ip version: " ++ v.exact
  | notNumber rule v => rule ++ " must be a number, got " ++ v.exact
  | multipleBase => "multiple must be a positive number"
  | precision => "precision must be a positive integer"
  | sign v => "Invalid sign: " ++ v.exact
  | timeUnit v =>
    "timestamp type must be one of \"javascript\" or \"unix\", got " ++ v.exact
  | dateLimit rule v => rule ++ " date must have a valid date format, got " ++ v.exact
  | itemSchema => "items must be given a schema"
  | sortOrder v => "Unknown sort order " ++ v.exact
  | noPeers rule => rule ++ " requires at least one peer"
  | peer rule v => rule ++ " peers must be strings, got " ++ v.exact
  | patternFlag v => "Unsupported regular expression flag " ++ v.exact

end DefinitionError

/-- Why there is no schema: an error in its definition, or a fault. -/
inductive DefinitionFailure
  | error (e : DefinitionError)
  | fault (f : Fault)

abbrev Defined (α : Type) := Except DefinitionFailure α

namespace Defined

/-- A computation that may end with a fault, as part of a definition. -/
def lift {α : Type} : Except Fault α → Defined α
  | .ok a => .ok a
  | .error f => .error (.fault f)

def fault {α : Type} (f : Fault) : Defined α := .error (.fault f)

def refuse {α : Type} (e : DefinitionError) : Defined α := .error (.error e)

/-- No arguments. -/
def nothing {α : Type} (a : α) : List Value → Defined α
  | [] => .ok a
  | _ => fault .wrongType

/-- One argument. -/
def single : List Value → Defined Value
  | [v] => .ok v
  | _ => fault .wrongType

/-- One argument, or none where `default` is meant. -/
def singleOr (default : Value) : List Value → Defined Value
  | [] => .ok default
  | args => single args

/-- One argument and another that may be missing. -/
def oneOrTwo : List Value → Defined (Value × Value)
  | [v] => .ok (v, .null)
  | [v, w] => .ok (v, w)
  | _ => fault .wrongType

/-- Options as the only argument. -/
def optionsOf (args : List Value) : Defined Entries := do
  lift (← singleOr .null args).options

/-- Options that may be given as pairs, as the only argument. -/
def entryListOf (args : List Value) : Defined Entries := do
  lift (← singleOr .null args).entryList

/-- A limit for the size of something. -/
def sizeLimit (rule : String) (v : Value) : Defined Nat :=
  match v with
  | .number (.int n) => if 0 ≤ n then .ok n.toNat else refuse (.limit rule)
  | _ => refuse (.limit rule)

def numberArgument (rule : String) (v : Value) : Defined Number :=
  match v with
  | .number x => .ok x
  | _ => refuse (.notNumber rule v)

end Defined

/-- The pattern that a text denotes. -/
def Defined.pattern (source : String) (flags : PatternFlags) : Defined Pattern :=
  match Pattern.read source flags with
  | .ok p => .ok p
  | .error .malformed => Defined.fault .badPattern
  | .error .conflictingFlags => Defined.fault .badValue
  | .error .unreadableCount => Defined.fault .badValue
  | .error .countTooLarge => Defined.fault .overflow

def SizeTest.ofName? (name : String) : Option SizeTest :=
  [SizeTest.length, SizeTest.max, SizeTest.min].find? (·.name == name)

end InputGuard

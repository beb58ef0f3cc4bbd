import InputGuard.Schema.StringOperation

/-!
# Refinement of schemas

`Schema.refine` does an operation by its name. It never changes a schema but gives another one,
mostly with one more rule.
-/

namespace InputGuard

open Defined

namespace NumberRule

/-- The rule that an operation on schemas for numbers adds. -/
def ofOperation (operation : String) (args : List Value) : Defined NumberRule :=
  match operation with
  | "integer" => nothing integer args
  | "multiple" => do
    let base ← numberArgument operation (← single args)
    if base.le (.int 0) then refuse .multipleBase else return multiple base
  | "precision" => do
    match ← single args with
    | .number (.int n) => if 0 ≤ n then return precision n.toNat else refuse .precision
    | _ => refuse .precision
  | "negative" => nothing (sign .negative) args
  | "positive" => nothing (sign .positive) args
  | "sign" => do
    match ← single args with
    | .str "negative" => return sign .negative
    | .str "positive" => return sign .positive
    | v => refuse (.sign v)
  | "port" => nothing port args
  | _ =>
    match Bound.ofName? operation with
    | some b => do return bound b (← numberArgument operation (← single args))
    | none => fault .missingMember

end NumberRule

namespace DateLimit

/-- The limit that a value stands for, in the rule of that name. -/
def ofValue (rule : String) (v : Value) : Defined DateLimit :=
  match v with
  | .str "now" => .ok now
  | v => do
    match ← lift (v.toMoment none) with
    | some m => return moment m
    | none => refuse (.dateLimit rule v)

end DateLimit

namespace DateRule

/-- The rule that an operation on schemas for dates adds. -/
def ofOperation (operation : String) (args : List Value) : Defined DateRule :=
  match Bound.ofName? operation with
  | some b => do return ⟨b, ← DateLimit.ofValue operation (← single args)⟩
  | none => fault .missingMember

end DateRule

namespace DateFormat

/-- The format that an operation on schemas for dates asks for, if it is about the format. -/
def ofOperation? (operation : String) (args : List Value) : Option (Defined DateFormat) :=
  match operation with
  | "iso" => some (nothing iso args)
  | "timestamp" => some do
    match ← singleOr (.str TimeUnit.milliseconds.name) args with
    | .str name =>
      match TimeUnit.ofName? name with
      | some unit => return timestamp unit
      | none => refuse (.timeUnit (.str name))
    | v => refuse (.timeUnit v)
  | _ => none

end DateFormat

namespace ArrayRule

def sortOrderOf (v : Value) : Defined SortOrder :=
  if !v.truthy then .ok .ascending
  else match v with
    | .str name =>
      match SortOrder.ofName? name with
      | some order => .ok order
      | none => refuse (.sortOrder v)
    | _ => refuse (.sortOrder v)

/-- The rule that an operation on schemas for arrays adds. -/
def ofOperation (operation : String) (args : List Value) : Defined ArrayRule :=
  match operation with
  | "sort" => do
    let options ← entryListOf args
    let order ← sortOrderOf (Value.option "order" options)
    return sort order (.ofValue (Value.option "by" options))
  | "unique" => do return unique (.ofValue (← singleOr .null args))
  | _ =>
    match SizeTest.ofName? operation with
    | some test => do return size test (← sizeLimit operation (← single args))
    | none => fault .missingMember

end ArrayRule

namespace PeerTest

/-- The test that an operation asks for. -/
def ofOperation? : String → Option PeerTest
  | "and_" => some allOrNone
  | "nand" => some notAll
  | "or_" => some someOf
  | "oxor" => some atMostOne
  | "xor" => some exactlyOne
  | _ => none

end PeerTest

namespace MainKey

def ofValue (v : Value) : MainKey :=
  match v with
  | .str name => text name
  | _ => if v.canBeKey then neverPresent else unusable

end MainKey

namespace ObjectRule

def peerName (rule : String) (v : Value) : Defined String :=
  match v with
  | .str name => .ok name
  | _ => refuse (.peer rule v)

def peerNames (rule : String) (args : List Value) : Defined (List String) :=
  if args.isEmpty then refuse (.noPeers rule) else args.mapM (peerName rule)

/-- A key and its peers. -/
def keyAndPeers (rule : String) : List Value → Defined (MainKey × List String)
  | [] => fault .wrongType
  | key :: names => do return (.ofValue key, ← peerNames rule names)

/-- The rule that an operation on schemas for objects adds. -/
def ofOperation (operation : String) (args : List Value) : Defined ObjectRule :=
  match operation with
  | "with_" => do
    let (key, names) ← keyAndPeers "with" args
    return with_ key names
  | "without" => do
    let (key, names) ← keyAndPeers "without" args
    return without key names
  | _ =>
    match PeerTest.ofOperation? operation, SizeTest.ofName? operation with
    | some test, _ => do return peers test (← peerNames test.name args)
    | none, some test => do return size test (← sizeLimit operation (← single args))
    | none, none => fault .missingMember

end ObjectRule

namespace Schema

/-- The schema with further overrides of preferences. -/
def prefer (schema : Schema) (overrides : Entries) : Schema :=
  let s := schema.settings
  schema.withSettings { s with overrides := insertKeys s.overrides overrides }

/-- The schema with only some values allowed. -/
def allow (schema : Schema) (values : List Value) : Schema :=
  schema.withSettings { schema.settings with allowed := some values }

def preferencesOf (v : Value) : Defined Entries :=
  match v with
  | .null => .ok []
  | .object entries => .ok entries
  | _ => refuse .preferences

/-- The schema of arrays with a schema for their items. -/
def withItem? (schema item : Schema) : Option Schema :=
  match schema with
  | array s rules | arrayOf s rules _ => some (arrayOf s rules item)
  | _ => none

/-- The schema after an operation, unless that leaves it as it is. -/
def refine (schema : Schema) (operation : String) (args : List Value) :
    Defined (Option Schema) :=
  match operation with
  | "prefs" => do
    return some (schema.prefer (← preferencesOf (← singleOr .null args)))
  | "valid" => .ok (some (schema.allow args))
  | _ =>
    match schema with
    | any _ | boolean _ => fault .missingMember
    | string s rules => do
      let rule ← StringRule.ofOperation operation args
      return rule.map fun rule => string s (rules ++ [rule])
    | number s rules anySize =>
      if operation = "unsafe" then do
        return some (number s rules (← singleOr (.bool true) args).truthy)
      else do
        return some (number s (rules ++ [← NumberRule.ofOperation operation args]) anySize)
    | date s rules format =>
      match DateFormat.ofOperation? operation args with
      | some format => do return some (date s rules (some (← format)))
      | none => do
        return some (date s (rules ++ [← DateRule.ofOperation operation args]) format)
    | array s rules =>
      if operation = "items" then do
        let _ ← single args
        refuse .itemSchema
      else do return some (array s (rules ++ [← ArrayRule.ofOperation operation args]))
    | arrayOf s rules item =>
      if operation = "items" then do
        let _ ← single args
        refuse .itemSchema
      else do return some (arrayOf s (rules ++ [← ArrayRule.ofOperation operation args]) item)
    | object s rules tree => do
      return some (object s (rules ++ [← ObjectRule.ofOperation operation args]) tree)

end Schema

end InputGuard

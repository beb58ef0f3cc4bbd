import InputGuard.Directive.Error
import InputGuard.Schema.Refine

/-!
# Arguments of directives

An argument of a directive names an operation on schemas, mostly by the name of the argument,
and gives its arguments as one value, in one of several forms. The argument `type` is a cast: it
replaces the schema.
-/

namespace InputGuard

/-- How the arguments of an operation are written as one value. -/
inductive ArgumentForm
  | asIs
  /-- A flag. Its value does not matter. -/
  | flag
  /-- A symbol. -/
  | symbol
  | spread
  | keyAndPeers
  | textLength
  /-- Options with names in camel case. -/
  | options
  | guidOptions
  | addressOptions
  | pattern
  | sort
  | unique
  deriving DecidableEq, Repr

/-- What an argument of a directive asks for: an operation, perhaps only on schemas of some
kinds. -/
structure Meaning where
  operation : String
  form : ArgumentForm
  kinds : Option (List Kind)
  deriving DecidableEq, Repr

/-! ## Forms -/

open Defined

/-- A name in snake case: an underscore before every capital letter but the first character. -/
def snakeCase (name : String) : String :=
  match name.toList with
  | [] => ""
  | c :: rest =>
    Unicode.lower (String.ofList (c :: rest.flatMap fun d => if d.isUpper then ['_', d] else [d]))

/-- Options under their names in snake case. -/
def snakeEntries (v : Value) : Defined Entries := do
  let entries ← lift v.options
  return insertKeys [] (entries.map fun (name, w) => (snakeCase name, w))

mutual

/-- A symbol, or the symbols of a list, in small letters. -/
def lowerSymbols : Value → Value
  | .str s => .str (Unicode.lower s)
  | .list items => .list (lowerAll items)
  | v => v

def lowerAll : List Value → List Value
  | [] => []
  | v :: rest => lowerSymbols v :: lowerAll rest

end

/-- The entries with one option changed, if it is given. -/
def mapOption (name : String) (f : Value → Defined Value) (entries : Entries) :
    Defined Entries :=
  match lookup? name entries with
  | none | some .null => .ok entries
  | some v => do return insertKey name (← f v) entries

def guidSeparators : List (String × Value) :=
  [("NONE", .bool false), ("COLON", .str ":"), ("DASH", .str "-"), ("COLON_OR_DASH", .bool true)]

def guidSeparatorOf (v : Value) : Defined Value :=
  match v with
  | .str name =>
    match lookup? name guidSeparators with
    | some w => .ok w
    | none => fault .missingKey
  | _ => fault (if v.canBeKey then .missingKey else .wrongType)

/-- A member of an object. -/
def memberOf (name : String) (v : Value) : Defined Value :=
  match v with
  | .object entries =>
    match lookup? name entries with
    | some w => .ok w
    | none => fault .missingKey
  | _ => fault .wrongType

/-- The flags of a pattern after one more letter; `u` and `g` say nothing new. -/
def addPatternFlag (flags : PatternFlags) (v : Value) : Defined PatternFlags :=
  match v with
  | .str "i" => .ok { flags with ignoreCase := true }
  | .str "m" => .ok { flags with multiline := true }
  | .str "s" => .ok { flags with dotAll := true }
  | .str "u" | .str "g" => .ok flags
  | _ => if v.canBeKey then refuse (.patternFlag v) else fault .wrongType

/-- A pattern with flags; one that has been read already takes no more of them. -/
def patternWith (flags : PatternFlags) (v : Value) : Defined Pattern :=
  match v with
  | .str source => Defined.pattern source flags
  | .pattern p => if flags = .none then .ok p else fault .badValue
  | _ => fault .wrongType

def patternArguments (v : Value) : Defined (List Value) := do
  let entries ←
    match v with
    | .object entries => .ok entries
    | _ => fault .missingMember
  let letters ← lift (Value.option "flags" entries).optionalParts
  let flags ← letters.foldlM addPatternFlag .none
  let p ← patternWith flags (← memberOf "pattern" v)
  return [.pattern p,
    .object [("name", Value.option "name" entries),
      ("invert", .bool (Value.option "invert" entries).truthy)]]

def symbolArgument (v : Value) : Defined Value :=
  match v with
  | .str s => .ok (.str (Unicode.lower s))
  | _ => fault .missingMember

/-- The arguments that a value stands for. -/
def ArgumentForm.read (v : Value) : ArgumentForm → Defined (List Value)
  | asIs => .ok [v]
  | flag => .ok []
  | symbol => do return [← symbolArgument v]
  | spread => lift v.parts
  | keyAndPeers => do
    let key ← memberOf "key" v
    let peers ← memberOr "peers" v
    return key :: (← lift peers.optionalParts)
  | textLength => do return [← memberOf "limit" v, ← memberOr "encoding" v]
  | options => do return [.object (← snakeEntries v)]
  | guidOptions => do
    let entries ← snakeEntries v
    let entries ← mapOption "version" (fun w => .ok (lowerSymbols w)) entries
    return [.object (← mapOption "separator" guidSeparatorOf entries)]
  | addressOptions => do
    let entries ← snakeEntries v
    let entries ← mapOption "version" (fun w => .ok (lowerSymbols w)) entries
    return [.object (← mapOption "cidr" (fun w => .ok (lowerSymbols w)) entries)]
  | pattern => patternArguments v
  | sort => do
    let entries ← lift v.entryList
    return [.object (← mapOption "order" symbolArgument entries)]
  | unique => do return [Value.option "comparator" (← lift v.options)]
where
  /-- A member of an object that may be missing. -/
  memberOr (name : String) (v : Value) : Defined Value :=
    match v with
    | .object entries => .ok (Value.option name entries)
    | _ => fault .missingMember

/-! ## Meanings -/

namespace Meaning

/-- An operation of the argument's own name. -/
def plain (operation : String) (form : ArgumentForm) : Meaning := ⟨operation, form, none⟩

def on (kind : Kind) (operation : String) (form : ArgumentForm) : Meaning :=
  ⟨operation, form, some [kind]⟩

/-- The arguments that do not simply mean the operation of their name on any schema. -/
def table : List (String × Meaning) := [
  ("arrayLength", on .array "length" .asIs),
  ("arrayMax", on .array "max" .asIs),
  ("arrayMin", on .array "min" .asIs),
  ("arrayPrefs", on .array "prefs" .asIs),
  ("sort", on .array "sort" .sort),
  ("unique", on .array "unique" .unique),
  ("dateGreater", on .date "greater" .asIs),
  ("dateLess", on .date "less" .asIs),
  ("dateMax", on .date "max" .asIs),
  ("dateMin", on .date "min" .asIs),
  ("iso", on .date "iso" .flag),
  ("timestamp", plain "timestamp" .symbol),
  ("greater", on .number "greater" .asIs),
  ("less", on .number "less" .asIs),
  ("max", on .number "max" .asIs),
  ("min", on .number "min" .asIs),
  ("integer", plain "integer" .flag),
  ("negative", plain "negative" .flag),
  ("port", plain "port" .flag),
  ("positive", plain "positive" .flag),
  ("sign", plain "sign" .symbol),
  ("and", plain "and_" .spread),
  ("nand", plain "nand" .spread),
  ("or", plain "or_" .spread),
  ("oxor", plain "oxor" .spread),
  ("xor", plain "xor" .spread),
  ("with", plain "with_" .keyAndPeers),
  ("without", plain "without" .keyAndPeers),
  ("objectLength", on .object "length" .asIs),
  ("objectMax", on .object "max" .asIs),
  ("objectMin", on .object "min" .asIs),
  ("alphanum", plain "alphanum" .flag),
  ("base64", plain "base64" .options),
  ("case", plain "case" .symbol),
  ("creditCard", plain "credit_card" .flag),
  ("dataUri", plain "data_uri" .options),
  ("domain", plain "domain" .options),
  ("email", plain "email" .options),
  ("guid", plain "guid" .guidOptions),
  ("hex", plain "hex" .flag),
  ("hostname", plain "hostname" .flag),
  ("ip", plain "ip" .addressOptions),
  ("isoDate", plain "iso_date" .flag),
  ("isoDuration", plain "iso_duration" .flag),
  ("length", on .string "length" .textLength),
  ("lowercase", plain "lowercase" .flag),
  ("maxLength", on .string "max" .textLength),
  ("minLength", on .string "min" .textLength),
  ("pattern", plain "pattern" .pattern),
  ("regex", plain "pattern" .pattern),
  ("token", plain "token" .flag),
  ("uppercase", plain "uppercase" .flag),
  ("uuid", plain "guid" .guidOptions)]

def ofArgument (argument : String) : Meaning :=
  (lookup? argument table).getD (plain argument .asIs)

/-- Whether the operation is on arrays and not on their items. -/
def forArrays (m : Meaning) : Bool := (m.kinds.getD []).contains .array

/-- Whether the operation can be done to a schema. -/
def applies (m : Meaning) (schema : Schema) : Bool :=
  schema.operations.contains m.operation &&
    (match m.kinds with
      | some kinds => kinds.contains schema.kind
      | none => true)

end Meaning

/-- The argument that is a cast. -/
def castArgument : String := "type"

def isCast (argument : String) : Bool := argument == castArgument

/-- Whether an argument is one with a meaning of its own. -/
def isKnownArgument (argument : String) : Bool :=
  isCast argument || hasKey argument Meaning.table

/-- Whether an argument is about arrays themselves and not about their items. -/
def isArrayScoped (argument : String) : Bool :=
  !isCast argument && (Meaning.ofArgument argument).forArrays

/-! ## Casts -/

/-- The schemas that a type can be cast to, by name. -/
def casts : List (String × Schema) :=
  [("DATE", (Schema.date .plain [] none).prefer [("convert", .bool true)])]

/-- The schema of a cast. -/
def castSchema (v : Value) : Except CompileFailure Schema :=
  let unknown := .error (.error (.unknownCast v (sortedCastNames)))
  match v with
  | .str name =>
    match lookup? name casts with
    | some schema => .ok schema
    | none => unknown
  | _ => if v.canBeKey then unknown else .error (.fault .wrongType)
where
  sortedCastNames : List String := (casts.map (·.1)).mergeSort fun a b => a ≤ b

end InputGuard

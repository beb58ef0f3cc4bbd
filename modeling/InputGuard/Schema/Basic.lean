import InputGuard.Schema.ArrayRule
import InputGuard.Schema.DateRule
import InputGuard.Schema.ObjectRule

/-!
# Schemas

A schema says what a value has to be: its kind, and the rules for values of that kind. Objects are
checked against a tree of schemas by key, which a schema does not hold but names. So trees may be
shared and may lead back to themselves.
-/

namespace InputGuard

/-- The kinds of schemas. -/
inductive Kind
  | any
  | string
  | number
  | date
  | boolean
  | array
  | object
  deriving DecidableEq, Repr

namespace Kind

def name : Kind → String
  | any => "any"
  | string => "string"
  | number => "number"
  | date => "date"
  | boolean => "boolean"
  | array => "array"
  | object => "object"

/-- The name under which schemas of a kind are shown. -/
def title : Kind → String
  | any => "Schema"
  | string => "StringSchema"
  | number => "NumberSchema"
  | date => "DateSchema"
  | boolean => "BooleanSchema"
  | array => "ArraySchema"
  | object => "ObjectSchema"

/-- The operations that schemas of a kind have, in alphabetic order. -/
def operations : Kind → List String
  | any | boolean => ["prefs", "valid"]
  | string =>
    ["alphanum", "base64", "case", "credit_card", "data_uri", "domain", "email", "guid", "hex",
      "hostname", "ip", "iso_date", "iso_duration", "length", "lowercase", "max", "min",
      "normalize", "pattern", "prefs", "token", "trim", "uppercase", "valid"]
  | number =>
    ["greater", "integer", "less", "max", "min", "multiple", "negative", "port", "positive",
      "precision", "prefs", "sign", "unsafe", "valid"]
  | date => ["greater", "iso", "less", "max", "min", "prefs", "timestamp", "valid"]
  | array => ["items", "length", "max", "min", "prefs", "sort", "unique", "valid"]
  | object =>
    ["and_", "length", "max", "min", "nand", "or_", "oxor", "prefs", "valid", "with_", "without",
      "xor"]

end Kind

/-- What a tree of schemas belongs to. -/
inductive TreeName
  /-- The fields of an input type. -/
  | input (type : String)
  /-- The arguments of a field. -/
  | arguments (owner field : String)
  | shared (name : String)
  /-- A tree that only one schema names. -/
  | own (number : Nat)
  deriving DecidableEq, Repr

/-- What schemas of all kinds have: preferences for the values below, and the values that are
allowed if not all of them are. -/
structure Settings where
  overrides : Entries
  allowed : Option (List Value)

def Settings.plain : Settings := ⟨[], none⟩

inductive Schema
  | any (settings : Settings)
  | string (settings : Settings) (rules : List StringRule)
  /-- With `anySize`, numbers may be beyond the integers that binary numbers hold exactly. -/
  | number (settings : Settings) (rules : List NumberRule) (anySize : Bool)
  | date (settings : Settings) (rules : List DateRule) (format : Option DateFormat)
  | boolean (settings : Settings)
  | array (settings : Settings) (rules : List ArrayRule)
  | arrayOf (settings : Settings) (rules : List ArrayRule) (item : Schema)
  | object (settings : Settings) (rules : List ObjectRule) (tree : TreeName)

/-- Schemas by key. -/
abbrev Tree := List (String × Schema)

namespace Schema

def settings : Schema → Settings
  | any s | string s _ | number s _ _ | date s _ _ | boolean s | array s _ | arrayOf s _ _
  | object s _ _ => s

def withSettings (s : Settings) : Schema → Schema
  | any _ => any s
  | string _ rules => string s rules
  | number _ rules anySize => number s rules anySize
  | date _ rules format => date s rules format
  | boolean _ => boolean s
  | array _ rules => array s rules
  | arrayOf _ rules item => arrayOf s rules item
  | object _ rules tree => object s rules tree

def kind : Schema → Kind
  | any _ => .any
  | string _ _ => .string
  | number _ _ _ => .number
  | date _ _ _ => .date
  | boolean _ => .boolean
  | array _ _ | arrayOf _ _ _ => .array
  | object _ _ _ => .object

/-- The names of the rules, in the order in which they are checked. -/
def ruleNames : Schema → List String
  | any _ | boolean _ => []
  | string _ rules => rules.map (·.name)
  | number _ rules _ => rules.map (·.name)
  | date _ rules _ => rules.map (·.name)
  | array _ rules | arrayOf _ rules _ => rules.map (·.name)
  | object _ rules _ => rules.map (·.name)

def hasRule (schema : Schema) (name : String) : Bool := schema.ruleNames.contains name

def operations (schema : Schema) : List String := schema.kind.operations

/-- The overrides of preferences. -/
def overrides (schema : Schema) : Entries := schema.settings.overrides

/-- The schema of the items of an array. -/
def item? : Schema → Option Schema
  | arrayOf _ _ item => some item
  | _ => none

/-- The tree of the entries of an object. -/
def tree? : Schema → Option TreeName
  | object _ _ tree => some tree
  | _ => none

/-- A schema as it is shown: its kind and the names of its rules. -/
def shown (schema : Schema) : String :=
  "<" ++ schema.kind.title ++ " kind=" ++ schema.kind.name ++ " rules=[" ++
    joinText ", " schema.ruleNames ++ "]>"

end Schema

end InputGuard

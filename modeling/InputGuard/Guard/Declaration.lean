import InputGuard.Directive.TypeGraph
import InputGuard.Unicode.Case

/-!
# The declaration of the directive

The text that declares the directive and the types of its arguments, in the schema language of the
service. The names of the types start with the capitalised name of the directive.
-/

namespace InputGuard

/-- The type of an argument of the directive. -/
inductive DeclaredType
  | scalar (name : String)
  /-- A type that is declared together with the directive. -/
  | helper (name : String)
  | list (item : DeclaredType)
  | required (type : DeclaredType)
  deriving DecidableEq, Repr

abbrev DeclaredFields := List (String × DeclaredType)

namespace DeclaredType

def int : DeclaredType := scalar "Int"
def float : DeclaredType := scalar "Float"
def string : DeclaredType := scalar "String"
def boolean : DeclaredType := scalar "Boolean"
def flag : DeclaredType := helper "Flag"

/-- The text of a type, with what the names of helper types start with. -/
def text (capital : String) : DeclaredType → String
  | scalar name => name
  | helper name => capital ++ name
  | list item => "[" ++ item.text capital ++ "]"
  | required type => type.text capital ++ "!"

/-- The reference to a type, with what the names of helper types start with. -/
def ref (capital : String) : DeclaredType → TypeRef
  | scalar name => .named name
  | helper name => .named (capital ++ name)
  | list item => .list (item.ref capital)
  | required type => .nonNull (type.ref capital)

end DeclaredType

namespace Declaration

open DeclaredType

/-- The arguments in groups with a heading. -/
def argumentGroups : List (String × DeclaredFields) := [
  ("Array validation.", [
    ("arrayLength", int), ("arrayMax", int), ("arrayMin", int), ("sort", helper "SortInput"),
    ("unique", helper "UniqueInput")]),
  ("Date validation.", [
    ("dateGreater", string), ("iso", flag), ("dateLess", string), ("dateMax", string),
    ("dateMin", string), ("timestamp", helper "TimestampType")]),
  ("Number validation.", [
    ("greater", float), ("integer", flag), ("less", float), ("max", float), ("min", float),
    ("multiple", float), ("negative", flag), ("port", flag), ("positive", flag),
    ("precision", int), ("sign", helper "Sign"), ("unsafe", boolean)]),
  ("Object validation.", [
    ("and", list string), ("objectLength", int), ("objectMax", int), ("objectMin", int),
    ("nand", list string), ("or", list string), ("oxor", list string), ("xor", list string),
    ("with", helper "WithInput"), ("without", helper "WithoutInput")]),
  ("String validation.", [
    ("alphanum", flag), ("base64", helper "Base64Input"), ("case", helper "CaseDirection"),
    ("creditCard", flag), ("dataUri", helper "DataUriInput"), ("domain", helper "DomainInput"),
    ("email", helper "EmailInput"), ("guid", helper "GuidInput"), ("hex", boolean),
    ("hostname", flag), ("ip", helper "IpInput"), ("isoDate", flag), ("isoDuration", flag),
    ("length", helper "StringLengthInput"), ("lowercase", flag),
    ("maxLength", helper "StringLengthInput"), ("minLength", helper "StringLengthInput"),
    ("normalize", helper "NormalizeForm"), ("pattern", helper "PatternInput"),
    ("regex", helper "PatternInput"), ("token", flag), ("trim", boolean), ("uppercase", flag),
    ("uuid", helper "GuidInput")]),
  ("Helpers.", [
    ("arrayPrefs", helper "Prefs"), ("prefs", helper "Prefs"), ("type", helper "Types")])]

/-- Where the directive may stand. -/
def places : List String := ["ARGUMENT_DEFINITION", "INPUT_FIELD_DEFINITION", "INPUT_OBJECT"]

/-- The helper types that are enumerations, with their symbols. -/
def enums : List (String × List String) := [
  ("Flag", ["TRUE"]),
  ("CaseDirection", ["UPPER", "LOWER"]),
  ("GuidSeparator", ["NONE", "COLON", "DASH", "COLON_OR_DASH"]),
  ("GuidVersion", ["UUIDV1", "UUIDV2", "UUIDV3", "UUIDV4", "UUIDV5"]),
  ("IpVersion", ["IPV4", "IPV6", "IPVFUTURE"]),
  ("IpCidr", ["OPTIONAL", "REQUIRED", "FORBIDDEN"]),
  ("NormalizeForm", ["NFC", "NFD", "NFKC", "NFKD"]),
  ("Sign", ["NEGATIVE", "POSITIVE"]),
  ("SortOrder", ["ASCENDING", "DESCENDING"]),
  ("TimestampType", ["UNIX", "JAVASCRIPT"]),
  ("Types", ["DATE"])]

def keyAndPeers : DeclaredFields := [("key", required string), ("peers", required (list string))]

/-- The helper types that are input types, with their fields. -/
def inputs : List (String × DeclaredFields) := [
  ("Base64Input", [("paddingRequired", boolean), ("urlSafe", boolean)]),
  ("DataUriInput", [("paddingRequired", boolean)]),
  ("DomainInput", [
    ("allowUnicode", boolean), ("minDomainSegments", int), ("maxDomainSegments", int)]),
  ("EmailInput", [
    ("allowUnicode", boolean), ("ignoreLength", boolean), ("minDomainSegments", int),
    ("maxDomainSegments", int), ("multiple", boolean), ("separator", string)]),
  ("GuidInput", [
    ("version", list (helper "GuidVersion")), ("separator", helper "GuidSeparator")]),
  ("IpInput", [("version", list (helper "IpVersion")), ("cidr", helper "IpCidr")]),
  ("PatternInput", [
    ("pattern", required string), ("flags", string), ("name", string), ("invert", boolean)]),
  ("Prefs", [("convert", boolean)]),
  ("SortInput", [("order", helper "SortOrder"), ("by", string)]),
  ("StringLengthInput", [("limit", required int), ("encoding", string)]),
  ("UniqueInput", [("comparator", string)]),
  ("WithInput", keyAndPeers),
  ("WithoutInput", keyAndPeers)]

/-- A name with its first letter in capitals. -/
def capitalise (name : String) : String :=
  match name.toList with
  | [] => ""
  | c :: rest => String.ofList (Unicode.upperChar c ++ rest)

def enumType (capital : String) (enum : String × List String) : TypeDefinition :=
  .enum ⟨capital ++ enum.1, enum.2.map fun symbol => (symbol, .null)⟩

def inputType (capital : String) (input : String × DeclaredFields) : TypeDefinition :=
  .input ⟨capital ++ input.1, input.2.map fun (name, type) => ⟨name, type.ref capital, []⟩, []⟩

/-- The helper types of a directive. -/
def types (name : String) : TypeGraph :=
  let capital := capitalise name
  enums.map (enumType capital) ++ inputs.map (inputType capital)

def fieldLine (capital : String) (field : String × DeclaredType) : String :=
  "  " ++ field.1 ++ ": " ++ field.2.text capital ++ "\n"

def groupText (capital : String) (group : String × DeclaredFields) : String :=
  "  # " ++ group.1 ++ "\n" ++ String.join (group.2.map (fieldLine capital))

def enumLine (capital : String) (enum : String × List String) : String :=
  "enum " ++ capital ++ enum.1 ++ " \x7b " ++ joinText " " enum.2 ++ " \x7d\n"

def inputText (capital : String) (input : String × DeclaredFields) : String :=
  "input " ++ capital ++ input.1 ++ " \x7b\n" ++
    String.join (input.2.map (fieldLine capital)) ++ "\x7d\n"

/-- The declaration of a directive. -/
def text (name : String) : String :=
  let capital := capitalise name
  "\ndirective @" ++ name ++ "(\n" ++ joinText "\n" (argumentGroups.map (groupText capital)) ++
    ") on " ++ joinText " | " places ++ "\n\n" ++ String.join (enums.map (enumLine capital)) ++
    "\n" ++ joinText "\n" (inputs.map (inputText capital))

end Declaration

end InputGuard

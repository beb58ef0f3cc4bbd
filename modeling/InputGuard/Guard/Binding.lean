import InputGuard.Directive.TypeGraph
import InputGuard.Report
import InputGuard.Text.Similarity

/-!
# Bindings

Functions are bound to the fields of object types by name. A name that does not exist is an error,
which suggests names that are close to it.
-/

namespace InputGuard

/-- A type that does not exist or, with an owner, a field that its type does not have. -/
structure BindingError where
  name : String
  owner : Option String
  suggestions : List String
  deriving DecidableEq, Repr

namespace BindingError

/-- The error about a name where others are available. -/
def of (name : String) (available : List String) (owner : Option String) : BindingError :=
  ⟨name, owner, closeMatches name available⟩

/-- The owner, if it has a name. -/
def namedOwner (e : BindingError) : Option String := e.owner.filter (· != "")

def message (e : BindingError) : String :=
  let place := (e.namedOwner.map fun o => " on type '" ++ o ++ "'").getD ""
  let missing := if e.namedOwner.isSome then "field." else "type."
  let hint :=
    if e.suggestions.isEmpty then "" else " Did you mean: " ++ joinText ", " e.suggestions ++ "?"
  "Cannot bind resolver '" ++ e.name ++ "'" ++ place ++ ": no such " ++ missing ++ hint

def report (e : BindingError) : Report :=
  ⟨"ResolverBindingError", e.message,
    some [("error", Report.text "RESOLVER_BINDING"), ("name", Report.text e.name),
      ("type", .value ((e.owner.map Value.str).getD .null)),
      ("suggestions", .value (.strings e.suggestions))]⟩

end BindingError

/-- An object type with fields that have no arguments. -/
def plainObject (name : String) (fields : List String) : ObjectType :=
  ⟨name, fields.map fun f => ⟨f, []⟩⟩

/-- The object types that every service has, which describe its types. -/
def introspectionTypes : List ObjectType := [
  plainObject "__Schema"
    ["description", "types", "queryType", "mutationType", "subscriptionType", "directives"],
  plainObject "__Type"
    ["kind", "name", "description", "specifiedByURL", "fields", "interfaces", "possibleTypes",
      "enumValues", "inputFields", "ofType"],
  plainObject "__Field"
    ["name", "description", "args", "type", "isDeprecated", "deprecationReason"],
  plainObject "__InputValue"
    ["name", "description", "type", "defaultValue", "isDeprecated", "deprecationReason"],
  plainObject "__EnumValue" ["name", "description", "isDeprecated", "deprecationReason"],
  plainObject "__Directive" ["name", "description", "isRepeatable", "locations", "args"]]

def TypeGraph.allObjects (graph : TypeGraph) : List ObjectType :=
  graph.objects ++ introspectionTypes

/-- Names of types with names of their fields. -/
abbrev Bindings (ρ : Type) := List (String × List (String × ρ))

namespace Bindings

def checkFields (owner : ObjectType) : List String → Except BindingError Unit
  | [] => .ok ()
  | name :: rest =>
    let available := owner.fields.map (·.name)
    if available.contains name then checkFields owner rest
    else .error (.of name available (some owner.name))

/-- Refuses the first name that does not exist. -/
def check {ρ : Type} (graph : TypeGraph) : Bindings ρ → Except BindingError Unit
  | [] => .ok ()
  | (type, fields) :: rest =>
    match graph.allObjects.find? (·.name == type) with
    | some owner => do
      checkFields owner (fields.map (·.1))
      check graph rest
    | none => .error (.of type (graph.allObjects.map (·.name)) none)

/-- The function bound to a field; of several, the last one. -/
def find? {ρ : Type} (bindings : Bindings ρ) (type field : String) : Option ρ :=
  let here := (bindings.filter (·.1 == type)).flatMap (·.2)
  ((here.filter (·.1 == field)).getLast?).map (·.2)

end Bindings

end InputGuard

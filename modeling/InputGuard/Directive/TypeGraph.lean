import InputGuard.Directive.Literal
import InputGuard.Directive.TypeRef

/-!
# Type graphs

The types of a service, as far as they matter for its inputs, with the directives on them.
-/

namespace InputGuard

/-- A use of a directive. -/
structure Directive where
  name : String
  arguments : List (String × Literal)

/-- The first directive with a name. -/
def findDirective? (name : String) (directives : List Directive) : Option Directive :=
  directives.find? (·.name == name)

/-- An argument of a field, or a field of an input type. -/
structure InputValue where
  name : String
  type : TypeRef
  directives : List Directive

structure InputType where
  name : String
  fields : List InputValue
  directives : List Directive

/-- An enumeration; a symbol stands for its name unless it has a value of its own. -/
structure EnumType where
  name : String
  symbols : List (String × Value)

structure ObjectField where
  name : String
  arguments : List InputValue

structure ObjectType where
  name : String
  fields : List ObjectField

inductive TypeDefinition
  | scalar (name : String)
  | enum (type : EnumType)
  | input (type : InputType)
  | object (type : ObjectType)

def TypeDefinition.name : TypeDefinition → String
  | scalar name => name
  | enum type => type.name
  | input type => type.name
  | object type => type.name

abbrev TypeGraph := List TypeDefinition

namespace TypeGraph

def find? (graph : TypeGraph) (name : String) : Option TypeDefinition :=
  List.find? (·.name == name) graph

def inputs (graph : TypeGraph) : List InputType :=
  graph.filterMap fun
    | .input type => some type
    | _ => none

def objects (graph : TypeGraph) : List ObjectType :=
  graph.filterMap fun
    | .object type => some type
    | _ => none

end TypeGraph

end InputGuard

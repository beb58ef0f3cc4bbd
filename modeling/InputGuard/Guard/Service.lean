import InputGuard.Directive.Compile
import InputGuard.Guard.Binding
import InputGuard.Guard.Declaration
import InputGuard.Guard.Resolver

/-!
# Guarded services

A service is made from its types and from the functions bound to its fields. Every field that has
an annotated argument gets a guarded resolver, and the annotated arguments and the annotated fields
of input types are compiled, in the order of their definition.
-/

namespace InputGuard

/-- A field of an object type with its resolver. -/
structure ServiceField (ρ : Type) where
  owner : String
  name : String
  resolver : Resolver ρ

structure Service (ρ : Type) where
  config : Config
  graph : TypeGraph
  fields : List (ServiceField ρ)
  cache : Cache

/-- Why there is no service. -/
inductive ServiceFailure
  | binding (e : BindingError)
  | compilation (e : CompilationError)
  | fault (f : Fault)

def ServiceFailure.ofCompile : CompileFailure → ServiceFailure
  | .error e => .compilation e
  | .fault f => .fault f

namespace ServiceField

variable {ρ : Type}

/-- The tree of the arguments of a field. -/
def treeName (f : ServiceField ρ) : TreeName := .arguments f.owner f.name

/-- The field with its resolver guarded. -/
def guard (f : ServiceField ρ) : ServiceField ρ :=
  { f with resolver := f.resolver.guard f.treeName }

end ServiceField

namespace Service

variable {ρ : Type}

/-- The resolver of a field before any guard. -/
def boundResolver (bindings : Bindings ρ) (type field : String) : Resolver ρ :=
  match bindings.find? type field with
  | some function => .plain (.bound function)
  | none => .plain .member

/-- The fields of all object types, with what is bound to them. -/
def boundFields (graph : TypeGraph) (bindings : Bindings ρ) : List (ServiceField ρ) :=
  graph.allObjects.flatMap fun type =>
    type.fields.map fun f => ⟨type.name, f.name, boundResolver bindings type.name f.name⟩

/-- Guards a field. -/
def install (s : Service ρ) (owner field : String) : Service ρ :=
  { s with
    fields := s.fields.map fun f => if f.owner = owner ∧ f.name = field then f.guard else f
    cache := { s.cache with store := s.cache.store.reserve (.arguments owner field) } }

def compiler (s : Service ρ) : Compiler := ⟨s.graph, s.config.directive⟩

/-- Compiles an annotated input into a tree. -/
def compileInto (s : Service ρ) (input : InputValue) (directive : Directive)
    (target : TreeName) : Except ServiceFailure (Service ρ) :=
  match s.compiler.compile input.type directive.arguments input.name target s.cache with
  | (.ok _, cache) => .ok { s with cache }
  | (.error e, _) => .error (.ofCompile e)

/-- Compiles an argument of a field, if it is annotated. -/
def visitArgument (owner field : String) (s : Service ρ) (input : InputValue) :
    Except ServiceFailure (Service ρ) :=
  match findDirective? s.config.directive input.directives with
  | some directive => (s.install owner field).compileInto input directive (.arguments owner field)
  | none => .ok s

/-- Compiles a field of an input type, if it is annotated. -/
def visitInputField (owner : String) (s : Service ρ) (input : InputValue) :
    Except ServiceFailure (Service ρ) :=
  match findDirective? s.config.directive input.directives with
  | some directive =>
    { s with cache := s.cache.reserve owner }.compileInto input directive (.input owner)
  | none => .ok s

def visitField (owner : String) (s : Service ρ) (field : ObjectField) :
    Except ServiceFailure (Service ρ) :=
  field.arguments.foldlM (visitArgument owner field.name) s

/-- Types whose names start with two underscores are not looked at. -/
def visitType (s : Service ρ) (type : TypeDefinition) : Except ServiceFailure (Service ρ) :=
  if ['_', '_'].isPrefixOf type.name.toList then .ok s
  else match type with
    | .object type => type.fields.foldlM (visitField type.name) s
    | .input type => type.fields.foldlM (visitInputField type.name) s
    | _ => .ok s

/-- The service of some types before any directive is looked at. -/
def start (config : Config) (graph : TypeGraph) (bindings : Bindings ρ) : Service ρ :=
  ⟨config, graph, boundFields graph bindings, .empty⟩

/-- Compiles all annotated inputs, in the order of their definition. -/
def visitTypes (s : Service ρ) : Except ServiceFailure (Service ρ) := s.graph.foldlM visitType s

/-- The guarded service of some types and bindings. The types that are declared together with the
directive come first. -/
def build (config : Config) (graph : TypeGraph) (bindings : Bindings ρ) :
    Except ServiceFailure (Service ρ) :=
  let types := Declaration.types config.directive ++ graph
  match bindings.check types with
  | .error e => .error (.binding e)
  | .ok () => (start config types bindings).visitTypes

/-- The field of an object type. -/
def field? (s : Service ρ) (owner field : String) : Option (ServiceField ρ) :=
  s.fields.find? fun f => f.owner == owner && f.name == field

/-- The fields whose resolvers are guarded, in order. -/
def guardedFields (s : Service ρ) : List (ServiceField ρ) :=
  s.fields.filter (·.resolver.isGuarded)

end Service

end InputGuard

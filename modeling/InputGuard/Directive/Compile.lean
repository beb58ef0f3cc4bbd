import InputGuard.Directive.Argument
import InputGuard.Directive.Cache
import InputGuard.Directive.TypeGraph

/-!
# Compilation of directives

The type of an input and the arguments of its directive make a schema. The fields of input types
are compiled into the trees of the cache, each type once. An error stops the compilation, but what
has been put into the cache by then stays there.
-/

namespace InputGuard

/-- The arguments of a directive in order. -/
abbrev Arguments := List (String × Literal)

namespace Schema

/-! ## Arguments -/

/-- The result of an operation on behalf of an argument. -/
def argumentResult {α : Type} (argument field : String) :
    Defined α → Except CompileFailure α
  | .ok a => .ok a
  | .error (.error e) => .error (.error (.invalidArgument argument field e.message))
  | .error (.fault .badPattern) => .error (.error (.invalidArgument argument field "<regex>"))
  | .error (.fault f) => .error (.fault f)

def literalValue (literal : Literal) : Except CompileFailure Value :=
  match literal.value with
  | .ok v => .ok v
  | .error f => .error (.fault f)

/-- Refuses casts. -/
def refuseCasts (field : String) : Arguments → Except CompileFailure Unit
  | [] => .ok ()
  | (argument, literal) :: rest =>
    if isCast argument then do
      throw (.error (.castOrder (← literalValue literal) field))
    else refuseCasts field rest

/-- Why an operation cannot be done to a schema. -/
def misfit (schema : Schema) (m : Meaning) (argument field : String) : CompilationError :=
  if m.forArrays && schema.kind != .array then
    .onlyForLists argument field (some schema.kind.name)
  else .notApplicable argument field (some schema.kind.name)

/-- The schema after an argument. -/
def applyArgument (field : String) (schema : Schema) (argument : String × Literal) :
    Except CompileFailure Schema := do
  let (name, literal) := argument
  let v ← literalValue literal
  if isCast name then castSchema v
  else
    let m := Meaning.ofArgument name
    let args ← argumentResult name field (m.form.read v)
    if m.applies schema then
      return (← argumentResult name field (schema.refine m.operation args)).getD schema
    else throw (.error (schema.misfit m name field))

/-- The schema after all arguments. Only the first one may be a cast. -/
def applyArguments (schema : Schema) (arguments : Arguments) (field : String) :
    Except CompileFailure Schema := do
  refuseCasts field arguments.tail
  arguments.foldlM (applyArgument field) schema

end Schema

/-! ## Types without fields -/

/-- The schemas of the scalar types. -/
def scalarSchemas : List (String × Schema) :=
  [("String", .string .plain []), ("ID", .string .plain []),
    ("Int", .number .plain [.integer] false), ("Float", .number .plain [] false),
    ("Boolean", .boolean .plain)]

def scalarSchema (name : String) : Except CompileFailure Schema :=
  match lookup? name scalarSchemas with
  | some schema => .ok schema
  | none => .error (.error (.unsupportedType name))

/-- The text that a symbol of an enumeration stands for. -/
def symbolText (enum : String) (symbol : String × Value) : Except CompileFailure String :=
  match symbol with
  | (name, .null) => .ok name
  | (_, .str s) => .ok s
  | (_, v) => .error (.error (.enumValue enum v))

def enumSchema (type : EnumType) : Except CompileFailure Schema := do
  let texts ← type.symbols.mapM (symbolText type.name)
  return (Schema.string .plain []).allow (texts.map .str)

/-! ## Types with fields -/

/-- The result of a compilation and the cache after it. -/
abbrev Compiled (α : Type) := Except CompileFailure α × Cache

/-- What the compilation of a service's inputs goes by. -/
structure Compiler where
  graph : TypeGraph
  /-- The name of the directives on input types. -/
  directive : String

namespace Compiler

variable (c : Compiler)

/-- The arguments of the directive on an input type. -/
def typeArguments (type : InputType) : Arguments :=
  ((findDirective? c.directive type.directives).map (·.arguments)).getD []

/-- The schema of an input type, whose fields `fill` compiles unless that is under way. -/
def inputSchema (fill : InputType → Cache → Compiled Unit) (field : String) (type : InputType)
    (cache : Cache) : Compiled Schema :=
  let reserved := cache.reserve type.name
  let (filled, after) :=
    if reserved.isFilling type.name then (.ok (), reserved) else fill type reserved
  let schema := do
    filled
    (Schema.object .plain [] (.input type.name)).applyArguments (c.typeArguments type) field
  (schema, after)

/-- The schema of a named type. -/
def namedSchema (fill : InputType → Cache → Compiled Unit) (field name : String)
    (cache : Cache) : Compiled Schema :=
  match c.graph.find? name with
  | some (.input type) => c.inputSchema fill field type cache
  | some (.enum type) => (enumSchema type, cache)
  | _ => (scalarSchema name, cache)

/-- The schema of a type under the arguments of a directive. Lists take the arguments about
arrays, their items the other ones. -/
def refSchema (fill : InputType → Cache → Compiled Unit) (field : String) :
    TypeRef → Arguments → Cache → Compiled Schema
  | .nonNull type, arguments, cache => refSchema fill field type arguments cache
  | .list type, arguments, cache =>
    let (item, after) :=
      refSchema fill field type (arguments.filter fun a => !isArrayScoped a.1) cache
    let schema := do
      (Schema.arrayOf .plain [] (← item)).applyArguments
        (arguments.filter fun a => isArrayScoped a.1) field
    (schema, after)
  | .named name, arguments, cache =>
    let (base, after) := c.namedSchema fill field name cache
    (do (← base).applyArguments arguments field, after)

/-- Compiles the fields that the tree of a type lacks, up to the first error. -/
def fillFields (fill : InputType → Cache → Compiled Unit) (type : String) :
    List InputValue → Cache → Compiled Unit
  | [], cache => (.ok (), cache)
  | field :: rest, cache =>
    if hasKey field.name (cache.store.tree (.input type)) then fillFields fill type rest cache
    else
      match c.refSchema fill field.name field.type [] cache with
      | (.ok schema, after) =>
        fillFields fill type rest (after.put (.input type) field.name schema)
      | (.error e, after) => (.error e, after)

/-- Fills the tree of a type, with at most `depth` types under way at a time. -/
def fillType : Nat → InputType → Cache → Compiled Unit
  | 0, _, cache => (.ok (), cache)
  | depth + 1, type, cache =>
    let (done, after) :=
      c.fillFields (fillType depth) type.name type.fields (cache.enter type.name)
    (done, after.leave type.name)

/-- Fills the tree of a type. A type under way is not filled again, so there are never more under
way than there are input types. -/
def fill (type : InputType) (cache : Cache) : Compiled Unit :=
  c.fillType c.graph.inputs.length type cache

/-- Compiles a type and the arguments of its directive into a tree, under the name of a field. -/
def compile (type : TypeRef) (arguments : Arguments) (field : String) (target : TreeName)
    (cache : Cache) : Compiled Schema :=
  match c.refSchema c.fill field type arguments cache with
  | (.ok schema, after) => (.ok schema, after.put target field schema)
  | (.error e, after) => (.error e, after)

end Compiler

end InputGuard

import InputGuard.Report

/-!
# Compilation errors

Why a directive cannot be made into a schema.
-/

namespace InputGuard

inductive CompilationError
  | unsupportedType (name : String)
  | notApplicable (argument field : String) (kind : Option String)
  /-- An operation on arrays for a field that is no list. -/
  | onlyForLists (argument field : String) (kind : Option String)
  /-- A type cast that is not the first argument. -/
  | castOrder (cast : Value) (field : String)
  | unknownCast (cast : Value) (known : List String)
  | enumValue (enum : String) (given : Value)
  | invalidArgument (argument field reason : String)

namespace CompilationError

def name : CompilationError → String
  | unsupportedType _ => "UnsupportedTypeError"
  | notApplicable _ _ _ => "OperationNotApplicableError"
  | onlyForLists _ _ _ => "ListOperationError"
  | castOrder _ _ => "TypeCastOrderError"
  | unknownCast _ _ => "UnknownTypeCastError"
  | enumValue _ _ => "NonStringEnumError"
  | invalidArgument _ _ _ => "InvalidArgumentError"

def message : CompilationError → String
  | unsupportedType name => "type '" ++ name ++ "' is unsupported"
  | notApplicable argument field _ | onlyForLists argument field _ =>
    "'" ++ argument ++ "' cannot be used to validate '" ++ field ++ "'"
  | castOrder cast _ => "type cast '" ++ cast.plain ++ "' must be first directive argument"
  | unknownCast cast known =>
    "unrecognized type cast '" ++ cast.plain ++ "'. Valid casts: " ++ joinText ", " known
  | enumValue enum _ => "enum '" ++ enum ++ "': only string values are supported"
  | invalidArgument argument field reason =>
    "invalid value for '" ++ argument ++ "' on '" ++ field ++ "': " ++ reason

def kindMembers (argument field : String) (kind : Option String) : List (String × Member) :=
  [("error", Report.text "OPERATION_NOT_APPLICABLE"), ("argument", Report.text argument),
    ("field", Report.text field),
    ("kind", .value ((kind.map Value.str).getD .null))]

def report (e : CompilationError) : Report :=
  match e with
  | unsupportedType name =>
    ⟨e.name, e.message,
      some [("error", Report.text "UNSUPPORTED_TYPE"), ("type", Report.text name)]⟩
  | notApplicable argument field kind | onlyForLists argument field kind =>
    ⟨e.name, e.message, some (kindMembers argument field kind)⟩
  | invalidArgument argument field reason =>
    ⟨e.name, e.message,
      some [("error", Report.text "INVALID_ARGUMENT"), ("argument", Report.text argument),
        ("field", Report.text field), ("reason", Report.text reason)]⟩
  | castOrder _ _ | unknownCast _ _ | enumValue _ _ => .plain e.name e.message

end CompilationError

/-- Why there is no compiled schema: an error in a directive, or a fault. -/
inductive CompileFailure
  | error (e : CompilationError)
  | fault (f : Fault)

end InputGuard

import InputGuard.Guard.Config
import InputGuard.Report
import InputGuard.Schema.Validate

/-!
# Resolvers

What answers the calls of a field. A guarded resolver checks the arguments of a call against its
tree before it passes them on.
-/

namespace InputGuard

/-- What answers a call in the end: a function bound to the field, or the member of the root that
has the field's name. -/
inductive Handler (ρ : Type)
  | member
  | bound (function : ρ)
  deriving DecidableEq, Repr

inductive Resolver (ρ : Type)
  | plain (handler : Handler ρ)
  | guarded (handler : Handler ρ) (tree : TreeName)
  deriving DecidableEq, Repr

/-- A call whose arguments are refused. -/
structure Rejection where
  details : List Detail
  code : String

namespace Rejection

def message (r : Rejection) : String := detailsMessage r.details

def report (r : Rejection) : Report :=
  ⟨"ArgumentValidationError", r.message,
    some [("error", Report.text r.code), ("code", Report.text r.code),
      ("details", .details r.details)]⟩

end Rejection

/-- Why a call has no answer. -/
inductive CallFailure
  | rejected (r : Rejection)
  | fault (f : Fault)

namespace Resolver

variable {ρ : Type}

def handler : Resolver ρ → Handler ρ
  | plain h | guarded h _ => h

def isGuarded : Resolver ρ → Bool
  | plain _ => false
  | guarded _ _ => true

def tree? : Resolver ρ → Option TreeName
  | plain _ => none
  | guarded _ tree => some tree

/-- The guarded resolver with a tree; one that is guarded already stays as it is. -/
def guard (tree : TreeName) : Resolver ρ → Resolver ρ
  | plain h => guarded h tree
  | r => r

end Resolver

structure Call where
  root : Value
  field : String
  arguments : Entries

/-- The member of the root that has the name of the field; null if there is none. -/
def Call.member (call : Call) : Value :=
  match call.root with
  | .object entries => (lookup? call.field entries).getD .null
  | _ => .null

/-- The answer of a handler. -/
def Handler.answer {ρ : Type} (run : ρ → Call → Value) (call : Call) : Handler ρ → Value
  | member => call.member
  | bound function => run function call

/-- The arguments that a guard passes on: the converted ones where conversion is asked for, and
else those that came in. -/
def guardArguments (config : Config) (store : Store) (env : Environment) (tree : TreeName)
    (arguments : Entries) : Except CallFailure Entries :=
  let schema := Schema.object .plain [] tree
  let prefs : Preferences := ⟨config.convert, config.allowUnknown⟩
  match attempt store prefs env schema (.object arguments) with
  | .error (.issue detail) => .error (.rejected ⟨[detail], config.errorCode⟩)
  | .error (.fault f) => .error (.fault f)
  | .ok (.object converted) =>
    .ok (if config.convert || schema.requestsConversion store then converted else arguments)
  | .ok _ => .ok arguments

/-- The answer to a call, where `invoke` has a handler answer, perhaps with effects. A guard invokes
its handler only with arguments that have passed. -/
def Resolver.answerWith {ρ : Type} {m : Type → Type} [Monad m] (config : Config) (store : Store)
    (env : Environment) (invoke : Handler ρ → Call → m Value) (call : Call) :
    Resolver ρ → m (Except CallFailure Value)
  | plain h => Except.ok <$> invoke h call
  | guarded h tree =>
    match guardArguments config store env tree call.arguments with
    | .ok arguments => Except.ok <$> invoke h { call with arguments }
    | .error e => pure (.error e)

/-- The answer to a call by functions without effects. -/
def Resolver.answer {ρ : Type} (config : Config) (store : Store) (env : Environment)
    (run : ρ → Call → Value) (call : Call) (resolver : Resolver ρ) : Except CallFailure Value :=
  Id.run (resolver.answerWith config store env (fun h call => pure (h.answer run call)) call)

end InputGuard

import InputGuard.Guard.Service

/-!
# Installing guards

Guards are installed on fields one at a time, in any order and as often as one likes. A guard that
is made gets a new tree; a resolver that is guarded already stays what it is.
-/

namespace InputGuard

/-- Fields on which guards are installed, and the trees of the guards. -/
structure Interceptor (ρ : Type) where
  fields : List (ServiceField ρ)
  store : Store

/-- A resolver is guarded on its own, or as that of a field. -/
inductive GuardCall (ρ : Type)
  | wrap (resolver : Resolver ρ)
  | install (owner field : String)

namespace Interceptor

variable {ρ : Type}

/-- No guard has been made for the fields. -/
def start (fields : List (ServiceField ρ)) : Interceptor ρ := ⟨fields, .empty⟩

def field? (s : Interceptor ρ) (owner field : String) : Option (ServiceField ρ) :=
  s.fields.find? fun f => f.owner == owner && f.name == field

/-- The guarded resolver, with a new tree unless it is guarded already. -/
def wrap (s : Interceptor ρ) (resolver : Resolver ρ) : Resolver ρ × Interceptor ρ :=
  if resolver.isGuarded then (resolver, s)
  else
    let tree := s.store.unusedName
    (resolver.guard tree, { s with store := s.store.reserve tree })

/-- The field with another resolver. -/
def replace (s : Interceptor ρ) (owner field : String) (resolver : Resolver ρ) : Interceptor ρ :=
  { s with fields := s.fields.map fun f =>
      if f.owner = owner ∧ f.name = field then { f with resolver } else f }

/-- The guarded resolver of a field, which replaces the resolver that the field had if that was not
guarded. -/
def install (s : Interceptor ρ) (owner field : String) : Option (Resolver ρ) × Interceptor ρ :=
  match s.field? owner field with
  | none => (none, s)
  | some f =>
    let (guarded, wrapped) := s.wrap f.resolver
    (some guarded,
      if f.resolver.isGuarded then wrapped else wrapped.replace owner field guarded)

/-- What is left of the fields and trees by a call. -/
def act (s : Interceptor ρ) : GuardCall ρ → Interceptor ρ
  | .wrap resolver => (s.wrap resolver).2
  | .install owner field => (s.install owner field).2

def after (s : Interceptor ρ) (calls : List (GuardCall ρ)) : Interceptor ρ := calls.foldl act s

end Interceptor

end InputGuard

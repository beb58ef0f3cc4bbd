import InputGuard.Guard.Resolver
import InputGuard.Proofs.StrictChecks

/-!
# Calls of guarded resolvers

A guard checks the arguments of a call. If they are refused, its handler is not invoked and the
call is answered with the refusal. If they pass, the handler is invoked once, with arguments of the
same names in the same order.

A guard whose tree converts anything passes on the whole result of the check. What keeps the other
arguments as they are is that a check without conversion passes values on unchanged.
-/

namespace InputGuard

variable {store : Store} {tree : TreeName}

/-- The arguments of a call are checked one by one. Nothing is asked of them together. -/
lemma attempt_arguments (store : Store) (prefs : Preferences) (env : Environment) (tree : TreeName)
    (arguments : Entries) :
    attempt store prefs env (.object .plain [] tree) (.object arguments) =
      Value.object <$>
        Schema.validateEntries store ⟨[], prefs, env⟩ (store.tree tree) arguments := by
  unfold attempt
  rw [Schema.validate]
  change (do
    let entries ← Schema.validateEntries store ⟨[], prefs, env⟩ (store.tree tree) arguments
    pure (Value.object entries)) = _
  exact bind_pure_comp _ _

lemma guardArguments_eq (config : Config) (store : Store) (env : Environment) (tree : TreeName)
    (arguments : Entries) :
    guardArguments config store env tree arguments =
      match Schema.validateEntries store ⟨[], ⟨config.convert, config.allowUnknown⟩, env⟩
        (store.tree tree) arguments with
      | .error (.issue detail) => .error (.rejected ⟨[detail], config.errorCode⟩)
      | .error (.fault f) => .error (.fault f)
      | .ok checked =>
        .ok (if config.convert || (Schema.object .plain [] tree).requestsConversion store
          then checked else arguments) := by
  simp only [guardArguments, attempt_arguments]
  cases Schema.validateEntries store ⟨[], ⟨config.convert, config.allowUnknown⟩, env⟩
      (store.tree tree) arguments with
  | error refusal => cases refusal <;> rfl
  | ok checked => rfl

/-- The argument that is passed on in the place of another one: it has the same name, and the same
value unless the guard or the schema of the argument asks for conversion. -/
def PassedOn (config : Config) (store : Store) (tree : TreeName) (a b : String × Value) : Prop :=
  b.1 = a.1 ∧
    (config.convert = false →
      (∀ schema, lookup? a.1 (store.tree tree) = some schema →
        schema.requestsConversion store = false) →
      b.2 = a.2)

lemma PassedOn.refl (config : Config) (store : Store) (tree : TreeName) (a : String × Value) :
    PassedOn config store tree a a :=
  ⟨rfl, fun _ _ => rfl⟩

/-- Arguments that pass a check are each passed on in their place. -/
lemma passedOn_of_validateEntries (config : Config) {env : Environment}
    {arguments checked : Entries} (ht : Value.timelessEntries arguments = true)
    (h : Schema.validateEntries store ⟨[], ⟨config.convert, config.allowUnknown⟩, env⟩
      (store.tree tree) arguments = .ok checked) :
    List.Forall₂ (PassedOn config store tree) arguments checked := by
  induction arguments generalizing checked with
  | nil =>
    rw [Schema.validateEntries] at h
    rw [← Except.ok.inj h]
    exact .nil
  | cons argument rest ih =>
    obtain ⟨key, v⟩ := argument
    simp only [Value.timelessEntries, Bool.and_eq_true] at ht
    obtain ⟨w, ws, hw, hws, rfl⟩ := (Schema.validateEntries_cons_eq_ok store _ _).mp h
    refine .cons ⟨rfl, fun hc hs => ?_⟩ (ih ht.2 hws)
    exact Schema.validateEntry_eq_self (fun schema hlook w hw =>
      schema.validate_eq_self _ hc (hs schema hlook) v ht.1 w hw) hw

section Calls

variable {ρ : Type} {m : Type → Type} [Monad m] {config : Config} {env : Environment}
  {invoke : Handler ρ → Call → m Value} {handler : Handler ρ} {call : Call}

lemma answerWith_of_passed {forwarded : Entries}
    (h : guardArguments config store env tree call.arguments = .ok forwarded) :
    (Resolver.guarded handler tree).answerWith config store env invoke call =
      Except.ok <$> invoke handler { call with arguments := forwarded } := by
  rw [Resolver.answerWith, h]

lemma answerWith_of_failed {e : CallFailure}
    (h : guardArguments config store env tree call.arguments = .error e) :
    (Resolver.guarded handler tree).answerWith config store env invoke call = pure (.error e) := by
  rw [Resolver.answerWith, h]

variable (store tree config env invoke handler call)

end Calls

/-- The arguments of a field where only the name is converted. -/
def greetingStore : Store :=
  ⟨[(.arguments "Query" "greet",
    [("name", .string ⟨[("convert", .bool true)], none⟩ [.trim]), ("note", .string .plain [])])]⟩

def greetingCall : Call :=
  ⟨.null, "greet", [("name", .str " Ada "), ("note", .str " hi "), ("times", .int 2)]⟩

/-- A handler that keeps the calls it was invoked with. -/
def recordCall (_ : Handler Unit) (call : Call) : StateM (List Call) Value := do
  modify (· ++ [call])
  return .null

end InputGuard

import InputGuard.Proofs.CompilationErrors

/-!
# Added rules

What an operation does to a schema depends on the kind of the schema alone: whether it can be done,
how it fails, and which rules it adds at the end. It keeps the kind. So arguments without a cast do to
a schema, one after the other, what each of them does to a schema of that kind without rules.
-/

namespace InputGuard

/-- A rule of schemas of some kind. -/
inductive Rule
  | string (rule : StringRule)
  | number (rule : NumberRule)
  | date (rule : DateRule)
  | array (rule : ArrayRule)
  | object (rule : ObjectRule)

lemma map_bind_congr {ε α β γ δ : Type} {f : α → β} {f' : α → γ} {g : β → δ} {g' : γ → δ}
    (h : ∀ a, g (f a) = g' (f' a)) (x : Except ε α) :
    (g <$> do return f (← x)) = g' <$> do return f' (← x) := by
  cases x with
  | error e => rfl
  | ok a => exact congrArg Except.ok (h a)

namespace Schema

/-- The rules of a schema, in the order in which they are checked. -/
def rules : Schema → List Rule
  | any _ | boolean _ => []
  | string _ rules => rules.map .string
  | number _ rules _ => rules.map .number
  | date _ rules _ => rules.map .date
  | array _ rules | arrayOf _ rules _ => rules.map .array
  | object _ rules _ => rules.map .object

/-- What decides about further operations, and what they add to. -/
def outline (schema : Schema) : Kind × List Rule := (schema.kind, schema.rules)

end Schema

/-- The schema of a kind without rules. -/
def Kind.blank : Kind → Schema
  | any => .any .plain
  | string => .string .plain []
  | number => .number .plain [] false
  | date => .date .plain [] none
  | boolean => .boolean .plain
  | array => .array .plain []
  | object => .object .plain [] (.own 0)

lemma Kind.kind_blank (kind : Kind) : kind.blank.kind = kind := by
  cases kind <;> rfl

namespace Schema

/-- The kind of a schema, and its rules with further ones at the end. -/
def extended (schema : Schema) (added : List Rule) : Kind × List Rule :=
  (schema.kind, schema.rules ++ added)

/-- An operation, done to a schema or to one of its kind without rules. -/
lemma refine_outline (schema : Schema) (operation : String) (args : List Value) :
    (fun refined : Option Schema => (refined.getD schema).outline) <$>
        schema.refine operation args =
      (fun refined : Option Schema =>
          schema.extended (refined.getD schema.kind.blank).rules) <$>
        schema.kind.blank.refine operation args := by
  have hsettings : ∀ s s' : Settings, (schema.withSettings s).outline =
      schema.extended (schema.kind.blank.withSettings s').rules := by
    intro s s'
    cases schema <;> simp [extended, outline, rules, withSettings, Kind.blank, kind]
  unfold refine
  split
  · cases Defined.singleOr .null args with
    | error e => rfl
    | ok v =>
      refine map_bind_congr (fun overrides => ?_) (preferencesOf v)
      exact hsettings _ _
  · exact congrArg Except.ok (hsettings _ _)
  · cases schema with
    | any settings | boolean settings => rfl
    | string settings rules =>
      refine map_bind_congr (fun rule => ?_) _
      cases rule <;> simp [outline, extended, Schema.rules, kind, Kind.blank]
    | number settings rules anySize =>
      dsimp only [kind, Kind.blank]
      split
      · exact map_bind_congr (fun v => by simp [outline, extended, Schema.rules, kind]) _
      · exact map_bind_congr (fun rule => by simp [outline, extended, Schema.rules, kind]) _
    | date settings rules format =>
      dsimp only [kind, Kind.blank]
      split
      · exact map_bind_congr (fun format => by simp [outline, extended, Schema.rules, kind]) _
      · exact map_bind_congr (fun rule => by simp [outline, extended, Schema.rules, kind]) _
    | array settings rules | arrayOf settings rules item =>
      dsimp only [kind, Kind.blank]
      split
      · cases Defined.single args <;> rfl
      · exact map_bind_congr (fun rule => by simp [outline, extended, Schema.rules, kind]) _
    | object settings rules tree =>
      exact map_bind_congr
        (fun rule => by simp [outline, extended, Schema.rules, kind, Kind.blank]) _

end Schema

/-- The rules that an argument adds to schemas of a kind. -/
def Kind.adds (kind : Kind) (field : String) (argument : String × Literal) :
    Except CompileFailure (List Rule) :=
  Schema.rules <$> kind.blank.applyArgument field argument

namespace Schema

variable {field : String}

lemma argumentResult_map {α β : Type} {argument : String} (f : α → β) (x : Defined α) :
    argumentResult argument field (f <$> x) = f <$> argumentResult argument field x := by
  match x with
  | .ok a => rfl
  | .error (.error e) => rfl
  | .error (.fault f) => cases f <;> rfl

lemma applies_blank (m : Meaning) (schema : Schema) :
    m.applies schema.kind.blank = m.applies schema := by
  unfold Meaning.applies operations
  rw [Kind.kind_blank]

lemma misfit_blank (m : Meaning) (schema : Schema) (argument field : String) :
    schema.kind.blank.misfit m argument field = schema.misfit m argument field := by
  unfold misfit
  rw [Kind.kind_blank]

/-- An argument that is no cast, applied to a schema or to one of its kind without rules. -/
lemma applyArgument_outline (schema : Schema) {argument : String × Literal}
    (hcast : isCast argument.1 = false) :
    outline <$> schema.applyArgument field argument =
      schema.extended <$> schema.kind.adds field argument := by
  obtain ⟨name, literal⟩ := argument
  have hcast : isCast name = false := hcast
  unfold Kind.adds applyArgument
  dsimp only
  rw [hcast]
  cases literalValue literal with
  | error e => rfl
  | ok v =>
    dsimp only [bind, Except.bind]
    rw [if_neg Bool.false_ne_true, if_neg Bool.false_ne_true]
    cases argumentResult name field ((Meaning.ofArgument name).form.read v) with
    | error e => rfl
    | ok args =>
      dsimp only
      rw [applies_blank, misfit_blank]
      split
      · have hrefine := congrArg (argumentResult name field)
          (schema.refine_outline (Meaning.ofArgument name).operation args)
        rw [argumentResult_map, argumentResult_map] at hrefine
        convert hrefine using 1
        · cases argumentResult name field
            (schema.refine (Meaning.ofArgument name).operation args) <;> rfl
        · cases argumentResult name field
            (schema.kind.blank.refine (Meaning.ofArgument name).operation args) <;> rfl
      · rfl

/-- Arguments without a cast add, one after the other, what each of them adds to schemas of the
kind. -/
lemma foldlM_applyArgument_outline (schema : Schema) {arguments : Arguments}
    (hcasts : ∀ a ∈ arguments, isCast a.1 = false) :
    outline <$> arguments.foldlM (applyArgument field) schema =
      (fun added => schema.extended added.flatten) <$>
        arguments.mapM (schema.kind.adds field) := by
  induction arguments generalizing schema with
  | nil => simp [extended, outline]
  | cons argument rest ih =>
    obtain ⟨hcast, hrest⟩ := List.forall_mem_cons.mp hcasts
    have hargument : outline <$> schema.applyArgument field argument =
        schema.extended <$> schema.kind.adds field argument := schema.applyArgument_outline hcast
    rw [List.foldlM_cons, List.mapM_cons]
    cases hadds : schema.kind.adds field argument with
    | error e =>
      rw [hadds] at hargument
      rw [map_eq_error.mp hargument]
      rfl
    | ok added =>
      rw [hadds] at hargument
      obtain ⟨t, ht, houtline⟩ := map_eq_ok.mp hargument
      obtain ⟨hkind, hrules⟩ := Prod.mk.inj houtline
      have hextended : ∀ more, t.extended more = schema.extended (added ++ more) := by
        intro more
        rw [extended, extended, hkind, hrules, List.append_assoc]
      rw [ht]
      change outline <$> rest.foldlM (applyArgument field) t = _
      rw [ih t hrest, hkind]
      cases rest.mapM (schema.kind.adds field) with
      | error e => rfl
      | ok lists => exact congrArg Except.ok (hextended lists.flatten)

end Schema

end InputGuard

import InputGuard.Proofs.StoreFrame
import InputGuard.Schema.Refine

/-!
# Scopes of preferences

The overrides of a schema hold for a value and for all values below, up to schemas that override them
again. A check merges them into the preferences on its way down. This file reads the same check from
the other end: the schemas on the way to a value are kept, and wherever a preference is asked for, the
innermost one that mentions it decides.
-/

namespace InputGuard

/-- The schema with other overrides in place of its own. -/
def Schema.withOverrides (schema : Schema) (overrides : Entries) : Schema :=
  schema.withSettings { schema.settings with overrides }

namespace Schema

variable (schema : Schema) (overrides : Entries) (visit : Visit)

lemma under_withOverrides : visit.under (schema.withOverrides overrides).settings =
    { visit with prefs := visit.prefs.merge overrides } := by
  cases schema <;> rfl

lemma item?_withOverrides : (schema.withOverrides overrides).item? = schema.item? := by
  cases schema <;> rfl

lemma tree?_withOverrides : (schema.withOverrides overrides).tree? = schema.tree? := by
  cases schema <;> rfl

/-- The check of the whole value looks for preferences in the visit only. -/
lemma finish_withOverrides (v : Value) :
    (schema.withOverrides overrides).finish visit v = schema.finish visit v := by
  cases schema <;> rfl

/-- Overrides of a schema do what the same overrides do around the schema without any. -/
lemma validate_withOverrides (store : Store) (v : Value) :
    (schema.withOverrides overrides).validate store visit v =
      (schema.withOverrides []).validate store
        { visit with prefs := visit.prefs.merge overrides } v := by
  have hmerge : ∀ p : Preferences, p.merge [] = p := fun _ => rfl
  match v with
  | .null => rfl
  | .list items =>
    rw [validate, validate]
    simp only [under_withOverrides, item?_withOverrides, finish_withOverrides, hmerge]
  | .object entries =>
    rw [validate, validate]
    simp only [under_withOverrides, tree?_withOverrides, finish_withOverrides, hmerge]
  | .bool _ | .number _ | .str _ | .day _ | .pattern _ | .moment _ =>
    simp only [validate, under_withOverrides, finish_withOverrides, hmerge]

end Schema

/-- Where a check has come to, with the preferences at its beginning and the schemas on the way, the
innermost one first. -/
structure Scope where
  path : Path
  env : Environment
  baseline : Preferences
  chain : List Schema

namespace Scope

/-- The preference that the innermost schema mentioning it decides. -/
def decide (scope : Scope) (key : String) (baseline : Bool) : Bool :=
  match scope.chain.findSome? fun schema => lookup? key schema.overrides with
  | some v => v.truthy
  | none => baseline

def prefs (scope : Scope) : Preferences where
  convert := scope.decide "convert" scope.baseline.convert
  allowUnknown := scope.decide "allow_unknown" scope.baseline.allowUnknown

def visit (scope : Scope) : Visit := ⟨scope.path, scope.prefs, scope.env⟩

def within (scope : Scope) (schema : Schema) : Scope :=
  { scope with chain := schema :: scope.chain }

def down (scope : Scope) (step : Step) : Scope := { scope with path := scope.path ++ [step] }

lemma decide_within (scope : Scope) (schema : Schema) (key : String) (baseline : Bool) :
    (scope.within schema).decide key baseline =
      Preferences.override key schema.overrides (scope.decide key baseline) := by
  unfold decide within Preferences.override
  rw [List.findSome?_cons]
  cases lookup? key schema.overrides <;> rfl

lemma visit_within (scope : Scope) (schema : Schema) :
    (scope.within schema).visit = scope.visit.under schema.settings := by
  have hprefs : (scope.within schema).prefs = scope.prefs.merge schema.overrides := by
    unfold prefs
    rw [decide_within, decide_within]
    rfl
  unfold visit
  rw [hprefs]
  rfl

lemma visit_down (scope : Scope) (step : Step) :
    (scope.down step).visit = scope.visit.down step := rfl

end Scope

namespace Schema

mutual

/-- The check of a value that keeps the schemas on the way and merges nothing. -/
def validateIn (store : Store) (scope : Scope) (schema : Schema) : Value → Checked Value
  | .null => .ok .null
  | .list items =>
    let scope := scope.within schema
    match schema.item? with
    | some item => do
      let items ← validateItemsIn store scope item 0 items
      schema.finish scope.visit (.list items)
    | none => schema.finish scope.visit (.list items)
  | .object entries =>
    let scope := scope.within schema
    match schema.tree? with
    | some name => do
      let entries ← validateEntriesIn store scope (store.tree name) entries
      schema.finish scope.visit (.object entries)
    | none => schema.finish scope.visit (.object entries)
  | v => schema.finish (scope.within schema).visit v

def validateItemsIn (store : Store) (scope : Scope) (item : Schema) (i : Nat) :
    List Value → Checked (List Value)
  | [] => .ok []
  | v :: rest => do
    let w ← validateIn store (scope.down (.index i)) item v
    let ws ← validateItemsIn store scope item (i + 1) rest
    return w :: ws

def validateEntriesIn (store : Store) (scope : Scope) (tree : Tree) :
    List (String × Value) → Checked Entries
  | [] => .ok []
  | (key, v) :: rest => do
    let below := scope.down (.key key)
    let w ← match lookup? key tree with
      | some schema => validateIn store below schema v
      | none =>
        if below.prefs.allowUnknown then .ok v else below.visit.refuse .objectUnknown v []
    let ws ← validateEntriesIn store scope tree rest
    return (key, w) :: ws

end

mutual

theorem validateIn_eq (store : Store) (scope : Scope) (schema : Schema) (v : Value) :
    schema.validateIn store scope v = schema.validate store scope.visit v := by
  match v with
  | .null => rfl
  | .list items =>
    rw [validateIn, validate]
    cases schema.item? with
    | some item => simp only [validateItemsIn_eq store, Scope.visit_within]
    | none => simp only [Scope.visit_within]
  | .object entries =>
    rw [validateIn, validate]
    cases schema.tree? with
    | some name => simp only [validateEntriesIn_eq store, Scope.visit_within]
    | none => simp only [Scope.visit_within]
  | .bool _ | .number _ | .str _ | .day _ | .pattern _ | .moment _ =>
    simp only [validateIn, validate, Scope.visit_within]

theorem validateItemsIn_eq (store : Store) (scope : Scope) (item : Schema) (i : Nat)
    (items : List Value) :
    validateItemsIn store scope item i items = validateItems store scope.visit item i items := by
  match items with
  | [] => rfl
  | v :: rest =>
    rw [validateItemsIn, validateItems, validateIn_eq store (scope.down (.index i)) item v,
      validateItemsIn_eq store scope item (i + 1) rest, Scope.visit_down]

theorem validateEntriesIn_eq (store : Store) (scope : Scope) (tree : Tree)
    (entries : List (String × Value)) :
    validateEntriesIn store scope tree entries =
      validateEntries store scope.visit tree entries := by
  match entries with
  | [] => rfl
  | (key, v) :: rest =>
    have hvalue : ∀ s : Schema, s.validateIn store (scope.down (.key key)) v =
        s.validate store (scope.visit.down (.key key)) v := fun s =>
      validateIn_eq store (scope.down (.key key)) s v
    rw [validateEntriesIn, validateEntries, validateEntriesIn_eq store scope tree rest]
    simp only [hvalue]
    rfl

end

end Schema

/-- Preferences are scoped. Further overrides of a schema come to the same as merging them, with those
that it has, into the preferences around the schema without any. For each part of a value, the
innermost of the schemas on the way that mentions a preference decides it. Other overrides of the
schema under one key of a tree do not matter for the other keys, unless one of their schemas leads to
the tree. -/
theorem preferences_scoped (store : Store) (visit : Visit) :
    (∀ (schema : Schema) overrides v, ∃ preferred,
      schema.refine "prefs" [.object overrides] = .ok (some preferred) ∧
      preferred.validate store visit v =
        (schema.withOverrides []).validate store
          { visit with prefs := visit.prefs.merge (insertKeys schema.overrides overrides) } v) ∧
    (∀ (schema : Schema) v, schema.validate store visit v =
      schema.validateIn store ⟨visit.path, visit.env, visit.prefs, []⟩ v) ∧
    (∀ name key old overrides other v, lookup? key (store.tree name) = some old → other ≠ key →
      (∀ s, lookup? other (store.tree name) = some s →
        ∀ settings rules, ¬ store.Reaches s (.object settings rules name)) →
      let changed := store.put name key (old.withOverrides overrides)
      Schema.validateEntry changed visit (changed.tree name) other v =
        Schema.validateEntry store visit (store.tree name) other v) := by
  refine ⟨fun schema overrides v => ?_, fun schema v => ?_, ?_⟩
  · exact ⟨schema.prefer overrides, rfl, schema.validate_withOverrides _ visit store v⟩
  · exact (schema.validateIn_eq store ⟨visit.path, visit.env, visit.prefs, []⟩ v).symm
  · intro name key old overrides other v _ hne hreach
    exact Schema.validateEntry_put _ hne hreach visit v

lemma Store.Reaches.eq_of_leaf {store : Store} {schema s : Schema} (hitem : schema.item? = none)
    (htree : schema.tree? = none) (h : store.Reaches schema s) : s = schema := by
  induction h with
  | self => rfl
  | item _ ih =>
    subst ih
    cases hitem
  | entry _ _ ih =>
    subst ih
    cases htree

/-- People with names, and perhaps with friends. -/
def peopleStore : Store :=
  ⟨[(.shared "Person",
    [("name", .string .plain [.trim]), ("nickname", .string .plain [.trim]),
      ("friend", .object .plain [] (.shared "Person"))])]⟩

theorem preferences_scoped_person :
    let visit : Visit := ⟨[], ⟨false, false⟩, .epoch⟩
    let person : TreeName := .shared "Person"
    let changed := peopleStore.put person "name" (.string ⟨[("convert", .bool true)], none⟩ [.trim])
    Schema.validateEntry changed visit (changed.tree person) "name" (.str " a") = .ok (.str "a") ∧
      Schema.validateEntry changed visit (changed.tree person) "nickname" (.str " a") =
        Schema.validateEntry peopleStore visit (peopleStore.tree person) "nickname" (.str " a") := by
  intro visit person changed
  refine ⟨rfl, ?_⟩
  refine (preferences_scoped peopleStore visit).2.2 person "name" _ [("convert", .bool true)]
    "nickname" (.str " a") rfl (by decide) ?_
  intro s hs settings rules hreach
  cases hs
  cases hreach.eq_of_leaf rfl rfl

end InputGuard

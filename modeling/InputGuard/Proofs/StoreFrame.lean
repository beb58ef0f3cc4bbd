import InputGuard.Proofs.ConversionReach
import InputGuard.Proofs.Outcomes

/-!
# What a check reads of a store

A check looks up keys in the trees that its schema leads to and reads nothing else of a store. So it
has the same outcome in all stores that agree on these trees.
-/

namespace InputGuard

variable {store store' : Store} {schema s : Schema}

/-- Two stores with the same schema under each key of the trees that a schema leads to. -/
def Store.AgreeFrom (store store' : Store) (schema : Schema) : Prop :=
  ∀ settings rules name, store.Reaches schema (.object settings rules name) →
    ∀ key, lookup? key (store.tree name) = lookup? key (store'.tree name)

lemma Store.AgreeFrom.of_reaches (h : store.AgreeFrom store' schema)
    (hr : store.Reaches schema s) : store.AgreeFrom store' s :=
  fun settings rules name hs => h settings rules name (hr.trans hs)

lemma Store.agreeFrom_put (name : TreeName) (key : String) (replacement : Schema)
    (h : ∀ settings rules, ¬ store.Reaches schema (.object settings rules name)) :
    store.AgreeFrom (store.put name key replacement) schema := by
  intro settings rules other hr k
  have hne : name ≠ other := by
    rintro rfl
    exact h settings rules hr
  rw [lookup?_put, if_neg fun hboth => hne hboth.1]

namespace Schema

lemma validateEntry_congr {visit : Visit} {tree tree' : Tree} {key : String} {v : Value}
    (hlook : lookup? key tree = lookup? key tree')
    (hs : ∀ s, lookup? key tree = some s → s.validate store (visit.down (.key key)) v =
      s.validate store' (visit.down (.key key)) v) :
    validateEntry store visit tree key v = validateEntry store' visit tree' key v := by
  unfold validateEntry
  rw [← hlook]
  cases hlook : lookup? key tree with
  | some s => exact hs s hlook
  | none => rfl

mutual

theorem validate_congr {schema : Schema} (h : store.AgreeFrom store' schema) (visit : Visit)
    (v : Value) : schema.validate store visit v = schema.validate store' visit v := by
  match v with
  | .list items =>
    rw [validate, validate]
    cases schema with
    | arrayOf settings rules item =>
      simp only [item?, validateItems_congr (h.of_reaches (.item .self)) _ 0 items]
    | any | string | number | date | boolean | array | object => rfl
  | .object entries =>
    rw [validate, validate]
    cases schema with
    | object settings rules tree =>
      simp only [tree?, validateEntries_congr h _ entries]
    | any | string | number | date | boolean | array | arrayOf => rfl
  | .null | .bool _ | .number _ | .str _ | .day _ | .pattern _ | .moment _ => rfl

theorem validateItems_congr {item : Schema} (h : store.AgreeFrom store' item) (visit : Visit)
    (i : Nat) (items : List Value) :
    validateItems store visit item i items = validateItems store' visit item i items := by
  match items with
  | [] => rfl
  | v :: rest =>
    rw [validateItems, validateItems, validate_congr h (visit.down (.index i)) v,
      validateItems_congr h visit (i + 1) rest]

theorem validateEntries_congr {settings : Settings} {rules : List ObjectRule} {name : TreeName}
    (h : store.AgreeFrom store' (.object settings rules name)) (visit : Visit)
    (entries : List (String × Value)) :
    validateEntries store visit (store.tree name) entries =
      validateEntries store' visit (store'.tree name) entries := by
  match entries with
  | [] => rfl
  | (key, v) :: rest =>
    have hentry : validateEntry store visit (store.tree name) key v =
        validateEntry store' visit (store'.tree name) key v :=
      validateEntry_congr (h settings rules name .self key) fun s hs =>
        validate_congr (h.of_reaches (.entry .self (mem_of_lookup? hs))) (visit.down (.key key)) v
    rw [validateEntries_cons, validateEntries_cons, hentry, validateEntries_congr h visit rest]

end

/-- What is under one key of a tree does not matter for the other keys, unless one of their schemas
leads to the tree. -/
lemma validateEntry_put {name : TreeName} {key other : String} (replacement : Schema)
    (hne : other ≠ key)
    (h : ∀ s, lookup? other (store.tree name) = some s →
      ∀ settings rules, ¬ store.Reaches s (.object settings rules name)) (visit : Visit)
    (v : Value) :
    validateEntry (store.put name key replacement) visit
        ((store.put name key replacement).tree name) other v =
      validateEntry store visit (store.tree name) other v := by
  have hlook : lookup? other (store.tree name) =
      lookup? other ((store.put name key replacement).tree name) := by
    rw [Store.lookup?_put, if_neg fun hboth => hne hboth.2.symm]
  refine (validateEntry_congr hlook fun s hs => ?_).symm
  exact validate_congr (Store.agreeFrom_put name key replacement (h s hs)) _ v

end Schema

end InputGuard

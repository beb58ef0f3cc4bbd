import InputGuard.Schema.Store

/-!
# Descriptions of schemas

A description lays a schema open with everything that it leads to. Trees are numbered in the order
in which they are met, and only the first meeting shows what they hold.
-/

namespace InputGuard

/-- What a description says of a schema by itself. -/
structure Headline where
  shown : String
  kind : Kind
  overrides : Entries
  requestsConversion : Bool

inductive Description
  | plain (head : Headline)
  | array (head : Headline)
  | arrayOf (head : Headline) (item : Description)
  | object (head : Headline) (tree : Nat) (fields : List (String × Description))
  /-- An object with a tree that has been shown before. -/
  | objectAgain (head : Headline) (tree : Nat)

/-- The trees met so far; the place of a tree is its number. -/
abbrev Numbering := StateM (List TreeName)

def Schema.headline (store : Store) (schema : Schema) : Headline :=
  ⟨schema.shown, schema.kind, schema.overrides, schema.requestsConversion store⟩

/-- Entries in the order of their keys. -/
def sortByKey {α : Type} (entries : List (String × α)) : List (String × α) :=
  entries.mergeSort fun a b => a.1 ≤ b.1

/-- The keys of entries in order. -/
def sortedKeys {α : Type} (entries : List (String × α)) : List String :=
  (sortByKey entries).map (·.1)

/-- The number of a tree and, if it has not been met before, what it holds. -/
def meetTree (open_ : TreeName → Numbering (List (String × Description))) (name : TreeName) :
    Numbering (Nat × Option (List (String × Description))) := do
  let met ← get
  match met.findIdx? (· == name) with
  | some n => return (n, none)
  | none =>
    set (met ++ [name])
    return (met.length, some (← open_ name))

/-- The description of a schema, given those of the entries of trees. -/
def Schema.describeWith (store : Store)
    (open_ : TreeName → Numbering (List (String × Description))) :
    Schema → Numbering Description
  | arrayOf s rules item => do
    return .arrayOf ((arrayOf s rules item).headline store) (← item.describeWith store open_)
  | array s rules => return .array ((array s rules).headline store)
  | object s rules tree => do
    let head := (object s rules tree).headline store
    match ← meetTree open_ tree with
    | (n, some fields) => return .object head n fields
    | (n, none) => return .objectAgain head n
  | schema => return .plain (schema.headline store)

namespace Store

/-- The descriptions of the entries of a tree, down to some number of trees inside each other. -/
def openTree (store : Store) : Nat → TreeName → Numbering (List (String × Description))
  | 0, _ => return []
  | depth + 1, name =>
    (sortByKey (store.tree name)).mapM fun (key, schema) => do
      return (key, ← schema.describeWith store (store.openTree depth))

/-- A tree by itself. No more trees are inside each other than the store has. -/
def describeTree (store : Store) (name : TreeName) :
    Numbering (Nat × Option (List (String × Description))) :=
  meetTree (store.openTree (store.size + 1)) name

end Store

def Schema.describe (store : Store) (schema : Schema) : Description :=
  ((schema.describeWith store (store.openTree (store.size + 1))).run []).1

end InputGuard

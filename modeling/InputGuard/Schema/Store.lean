import InputGuard.Schema.Basic

/-!
# Stores

A store holds the trees that schemas name. `Schema.requestsConversion` searches all schemas that can
be reached from one through items and trees, depth first.
-/

namespace InputGuard

structure Store where
  trees : List (TreeName × Tree)

namespace Store

def empty : Store := ⟨[]⟩

def get? (store : Store) (name : TreeName) : Option Tree :=
  (store.trees.find? (·.1 == name)).map (·.2)

/-- The tree with a name; without entries, if there is none. -/
def tree (store : Store) (name : TreeName) : Tree := (store.get? name).getD []

def has (store : Store) (name : TreeName) : Bool := (store.get? name).isSome

def size (store : Store) : Nat := store.trees.length

/-- The store with a tree under a name, in the place that the name has or else at the end. -/
def set (store : Store) (name : TreeName) (tree : Tree) : Store :=
  if store.has name then ⟨store.trees.map fun e => if e.1 = name then (name, tree) else e⟩
  else ⟨store.trees ++ [(name, tree)]⟩

/-- The store with a schema under a key of a tree. -/
def put (store : Store) (name : TreeName) (key : String) (schema : Schema) : Store :=
  store.set name (insertKey key schema (store.tree name))

/-- The store with a tree of that name, which has no entries if it is new. -/
def reserve (store : Store) (name : TreeName) : Store :=
  if store.has name then store else store.set name []

/-- A name that no tree of the store has. -/
def unusedName (store : Store) : TreeName := .own store.size

end Store

namespace Schema

/-- The trees that a schema names, itself or through items. -/
def treeNames : Schema → List TreeName
  | object _ _ tree => [tree]
  | arrayOf _ _ item => item.treeNames
  | _ => []

/-- Whether a schema overrides the preference for conversion with a true value. -/
def converts (schema : Schema) : Bool :=
  Preferences.override "convert" schema.overrides false

end Schema

/-- What a search has found, and the trees that have been opened by then. A search that would have
to go too deep finds no end. -/
abbrev Search := Option (Bool × List TreeName)

/-- Looks for a schema that converts, from one schema on through its items or its tree. A tree that
has been opened is not opened again. -/
def Schema.search (openTree : TreeName → List TreeName → Search) (schema : Schema)
    (opened : List TreeName) : Search :=
  if schema.converts then some (true, opened)
  else match schema with
    | .arrayOf _ _ item => item.search openTree opened
    | .object _ _ tree =>
      if opened.contains tree then some (false, opened) else openTree tree (tree :: opened)
    | _ => some (false, opened)

/-- Looks through the entries of a tree in order, up to the first that leads to a schema that
converts. -/
def Tree.search (look : Schema → List TreeName → Search) : Tree → List TreeName → Search
  | [], opened => some (false, opened)
  | (_, schema) :: rest, opened =>
    match look schema opened with
    | some (false, after) => Tree.search look rest after
    | result => result

/-- Looks through a tree, with at most `depth` trees inside each other. -/
def Store.search (store : Store) : Nat → TreeName → List TreeName → Search
  | 0, _, _ => none
  | depth + 1, name, opened => (store.tree name).search (Schema.search (store.search depth)) opened

/-- Whether a schema that can be reached converts. A search opens no more trees inside each other
than the store has, and one that it lacks. -/
def Schema.requestsConversion (store : Store) (schema : Schema) : Bool :=
  match schema.search (store.search (store.size + 1)) [] with
  | some (found, _) => found
  | none => false

end InputGuard

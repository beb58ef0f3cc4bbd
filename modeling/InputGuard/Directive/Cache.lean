import InputGuard.Schema.Store

/-!
# The cache of input types

The schemas of the fields of an input type are kept in one tree, which every use of the type
shares. While the tree is being filled the type is marked, so that a type that leads back to itself
finds its own unfinished tree.
-/

namespace InputGuard

structure Cache where
  store : Store
  filling : List String

namespace Cache

def empty : Cache := ⟨.empty, []⟩

def contains (cache : Cache) (type : String) : Bool := cache.store.has (.input type)

/-- The types that have a tree. -/
def types (cache : Cache) : List String :=
  cache.store.trees.filterMap fun
    | (.input type, _) => some type
    | _ => none

def size (cache : Cache) : Nat := cache.types.length

def get? (cache : Cache) (type : String) : Option Tree := cache.store.get? (.input type)

/-- Makes sure that a type has a tree. -/
def reserve (cache : Cache) (type : String) : Cache :=
  { cache with store := cache.store.reserve (.input type) }

/-- Puts a schema under a key of a tree. -/
def put (cache : Cache) (tree : TreeName) (key : String) (schema : Schema) : Cache :=
  { cache with store := cache.store.put tree key schema }

def isFilling (cache : Cache) (type : String) : Bool := cache.filling.contains type

/-- Starts filling the tree of a type. -/
def enter (cache : Cache) (type : String) : Cache :=
  let cache := cache.reserve type
  if cache.isFilling type then cache else { cache with filling := cache.filling ++ [type] }

/-- Ends filling the tree of a type, however often that was started. -/
def leave (cache : Cache) (type : String) : Cache :=
  { cache with filling := cache.filling.filter (· != type) }

end Cache

/-- An operation on a cache. An exit ends the filling of a type, perhaps because of an error. -/
inductive CacheEvent
  | reserve (type : String)
  | put (type key : String) (schema : Schema)
  | get (type : String)
  | enter (type : String)
  | exit (type : String) (byError : Bool)

/-- What an operation answers: the tree of its type, if it asks for one, and whether the tree is
new. -/
structure CacheAnswer where
  tree : Option Tree
  created : Bool

namespace Cache

def act (cache : Cache) : CacheEvent → Cache
  | .reserve type => cache.reserve type
  | .put type key schema => (cache.reserve type).put (.input type) key schema
  | .get _ => cache
  | .enter type => cache.enter type
  | .exit type _ => cache.leave type

def answer (cache : Cache) (event : CacheEvent) : CacheAnswer :=
  match event with
  | .reserve type => ⟨(cache.act event).get? type, !cache.contains type⟩
  | .get type | .enter type => ⟨(cache.act event).get? type, false⟩
  | .put _ _ _ | .exit _ _ => ⟨none, false⟩

/-- The cache after some operations. -/
def ofEvents (events : List CacheEvent) : Cache := events.foldl act .empty

end Cache

end InputGuard

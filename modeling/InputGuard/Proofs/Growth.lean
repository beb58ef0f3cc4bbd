import InputGuard.Proofs.FreshSchemas
import Mathlib.Logic.Relation

/-!
# Growth of the cache

A compilation only adds to the cache: names of trees, and entries where there were none. What it
adds belongs to the types that it visits, and each new entry is the fresh schema of its field.

A cache is settled if every field with an entry has a complete type behind it, or one that is being
filled. Compilations that succeed keep that up.
-/

namespace InputGuard

/-- The names in a graph are good for finding things: no two types have the same name, and no two
fields or arguments of one thing. -/
structure TypeGraph.WellNamed (graph : TypeGraph) : Prop where
  types : (graph.map (·.name)).Nodup
  inputs : ∀ type, .input type ∈ graph → (type.fields.map (·.name)).Nodup
  objects : ∀ type, .object type ∈ graph → (type.fields.map (·.name)).Nodup
  arguments : ∀ type, .object type ∈ graph → ∀ field ∈ type.fields,
    (field.arguments.map (·.name)).Nodup

/-- A type is complete if there is a tree for it with an entry for each of its fields. -/
def Cache.Holds (cache : Cache) (type : InputType) : Prop :=
  cache.contains type.name = true ∧
    ∀ field ∈ type.fields, hasKey field.name (cache.store.tree (.input type.name)) = true

namespace Compiler

variable (c : Compiler)

/-- The type is an input type of the service. -/
def Declares (type : InputType) : Prop := c.input? type.name = some type

/-- One store comes from another by additions for the types that are visited. -/
structure Grows (visited : InputType → Prop) (before after : Store) : Prop where
  has : ∀ name, before.has name = true → after.has name = true
  kept : ∀ name key s, lookup? key (before.tree name) = some s →
    lookup? key (after.tree name) = some s
  has_new : ∀ name, after.has name = true → before.has name = true ∨
    ∃ type, c.Declares type ∧ visited type ∧ name = .input type.name
  entry_new : ∀ name key s, lookup? key (after.tree name) = some s →
    lookup? key (before.tree name) = some s ∨
      ∃ type field, c.Declares type ∧ visited type ∧ name = .input type.name ∧
        field ∈ type.fields ∧ field.name = key ∧ c.freshSchema key field.type [] = .ok s
  keyed : before.Keyed → after.Keyed

/-- From the visited types, going on to the types of fields without an entry leads to no others. -/
def Encloses (visited : InputType → Prop) (store : Store) : Prop :=
  ∀ type, c.Declares type → visited type → ∀ field ∈ type.fields,
    hasKey field.name (store.tree (.input type.name)) = false →
    ∀ next, c.input? field.type.base = some next → visited next

/-- A field of one type is of the other type, or of lists of it. -/
def Leads (type next : InputType) : Prop :=
  ∃ field ∈ type.fields, c.input? field.type.base = some next

/-- An input type that fields lead to from the type inside the lists of a reference. -/
def Reachable (ref : TypeRef) (type : InputType) : Prop :=
  ∃ root, c.input? ref.base = some root ∧ Relation.ReflTransGen c.Leads root type

/-- Behind every field whose entry is not in the first store, there is a complete type or one that
is being filled. -/
def Settled (first : Store) (cache : Cache) : Prop :=
  ∀ type, c.Declares type → ∀ field ∈ type.fields,
    hasKey field.name (cache.store.tree (.input type.name)) = true →
    hasKey field.name (first.tree (.input type.name)) = false →
    ∀ next, c.input? field.type.base = some next →
      cache.Holds next ∨ cache.isFilling next.name = true

variable {c} {visited : InputType → Prop} {before after last store first : Store}
  {cache : Cache} {type next : InputType} {field : InputValue} {s : Schema}

lemma declares_of_input? {name : String} (h : c.input? name = some type) : c.Declares type := by
  unfold Declares
  rw [name_of_input? h, h]

lemma Declares.mem (h : c.Declares type) : .input type ∈ c.graph :=
  List.mem_of_find?_eq_some (input?_eq_some h)

lemma Declares.eq_of_name (h : c.Declares type) (h' : c.Declares next)
    (hname : type.name = next.name) : type = next := by
  unfold Declares at h h'
  rw [hname, h'] at h
  exact (Option.some.inj h).symm

/-- A field of a type is known by its name. -/
lemma Declares.field_eq (hw : c.graph.WellNamed) (h : c.Declares type) {f g : InputValue}
    (hf : f ∈ type.fields) (hg : g ∈ type.fields) (hname : f.name = g.name) : f = g :=
  List.inj_on_of_nodup_map (hw.inputs type h.mem) hf hg hname

lemma Reachable.root {ref : TypeRef} (h : c.input? ref.base = some type) : c.Reachable ref type :=
  ⟨type, h, .refl⟩

lemma Reachable.leads {ref : TypeRef} (h : c.Reachable ref type) (hl : c.Leads type next) :
    c.Reachable ref next := by
  obtain ⟨root, hroot, hpath⟩ := h
  exact ⟨root, hroot, hpath.tail hl⟩

lemma Grows.refl (visited : InputType → Prop) (store : Store) : c.Grows visited store store where
  has := fun _ h => h
  kept := fun _ _ _ h => h
  has_new := fun _ h => Or.inl h
  entry_new := fun _ _ _ h => Or.inl h
  keyed := id

lemma Grows.trans (h : c.Grows visited before after) (h' : c.Grows visited after last) :
    c.Grows visited before last where
  has := fun name hn => h'.has name (h.has name hn)
  kept := fun name key s hs => h'.kept name key s (h.kept name key s hs)
  has_new := by
    intro name hn
    rcases h'.has_new name hn with hold | hnew
    · exact h.has_new name hold
    · exact Or.inr hnew
  entry_new := by
    intro name key s hs
    rcases h'.entry_new name key s hs with hold | hnew
    · exact h.entry_new name key s hold
    · exact Or.inr hnew
  keyed := fun hk => h'.keyed (h.keyed hk)

lemma Grows.mono {wider : InputType → Prop} (h : c.Grows visited before after)
    (hsub : ∀ type, visited type → wider type) : c.Grows wider before after where
  has := h.has
  kept := h.kept
  has_new := by
    intro name hn
    rcases h.has_new name hn with hold | ⟨type, hd, hv, hname⟩
    · exact Or.inl hold
    · exact Or.inr ⟨type, hd, hsub type hv, hname⟩
  entry_new := by
    intro name key s hs
    rcases h.entry_new name key s hs with hold | ⟨type, field, hd, hv, hrest⟩
    · exact Or.inl hold
    · exact Or.inr ⟨type, field, hd, hsub type hv, hrest⟩
  keyed := h.keyed

lemma grows_reserve (hd : c.Declares type) (hv : visited type) :
    c.Grows visited store (store.reserve (.input type.name)) where
  has := fun name hn => (store.has_reserve _ name).mpr (Or.inr hn)
  kept := by
    intro name key s hs
    rwa [Store.tree_reserve]
  has_new := by
    intro name hn
    rcases (store.has_reserve _ name).mp hn with rfl | hold
    · exact Or.inr ⟨type, hd, hv, rfl⟩
    · exact Or.inl hold
  entry_new := by
    intro name key s hs
    rw [Store.tree_reserve] at hs
    exact Or.inl hs
  keyed := fun hk => hk.reserve _

lemma grows_put (hd : c.Declares type) (hv : visited type) (hf : field ∈ type.fields)
    (hsame : ∀ t, lookup? field.name (store.tree (.input type.name)) = some t → t = s)
    (hs : c.freshSchema field.name field.type [] = .ok s) :
    c.Grows visited store (store.put (.input type.name) field.name s) where
  has := fun name hn => (store.has_put _ name _ _).mpr (Or.inr hn)
  kept := by
    intro name key t ht
    rw [Store.lookup?_put]
    split
    · rename_i hat
      obtain ⟨rfl, rfl⟩ := hat
      rw [hsame t ht]
    · exact ht
  has_new := by
    intro name hn
    rcases (store.has_put _ name _ _).mp hn with rfl | hold
    · exact Or.inr ⟨type, hd, hv, rfl⟩
    · exact Or.inl hold
  entry_new := by
    intro name key t ht
    rw [Store.lookup?_put] at ht
    split at ht
    · rename_i hat
      obtain ⟨rfl, rfl⟩ := hat
      obtain rfl := Option.some.inj ht
      exact Or.inr ⟨type, field, hd, hv, rfl, hf, rfl, hs⟩
    · exact Or.inl ht
  keyed := fun hk => hk.put _ _ _

lemma Grows.hasKey (h : c.Grows visited before after) {name : TreeName} {key : String}
    (hk : hasKey key (before.tree name) = true) : hasKey key (after.tree name) = true := by
  obtain ⟨s, hs⟩ := hasKey_iff.mp hk
  exact hasKey_iff.mpr ⟨s, h.kept name key s hs⟩

lemma Grows.holds {cache cache' : Cache} (h : c.Grows visited cache.store cache'.store)
    (hh : cache.Holds type) : cache'.Holds type :=
  ⟨h.has _ hh.1, fun f hf => h.hasKey (hh.2 f hf)⟩

lemma Encloses.grows (he : c.Encloses visited before) (h : c.Grows visited before after) :
    c.Encloses visited after := by
  intro type hd hv field hf hnone next hnext
  refine he type hd hv field hf ?_ next hnext
  by_contra hk
  rw [h.hasKey (by simpa using hk)] at hnone
  exact Bool.noConfusion hnone

/-- Trees of types that are not visited stay as they are. -/
lemma Grows.hasKey_iff_of_not (h : c.Grows visited before after) (hd : c.Declares type)
    (hv : ¬visited type) {key : String} :
    InputGuard.hasKey key (after.tree (.input type.name)) = true ↔
      InputGuard.hasKey key (before.tree (.input type.name)) = true := by
  constructor
  · intro hk
    obtain ⟨s, hs⟩ := hasKey_iff.mp hk
    rcases h.entry_new _ _ _ hs with hold | ⟨other, _, ho, hvo, hname, _⟩
    · exact hasKey_iff.mpr ⟨s, hold⟩
    · obtain rfl := hd.eq_of_name ho (TreeName.input.inj hname)
      exact absurd hvo hv
  · exact h.hasKey

/-- Where there was no entry for a field, an entry can only be its bare schema. -/
lemma Grows.entry_eq_fresh (hw : c.graph.WellNamed) (h : c.Grows visited before after)
    (hd : c.Declares type) (hf : field ∈ type.fields)
    (hnone : InputGuard.hasKey field.name (before.tree (.input type.name)) = false) {t : Schema}
    (hs : c.freshSchema field.name field.type [] = .ok s)
    (ht : lookup? field.name (after.tree (.input type.name)) = some t) : t = s := by
  rcases h.entry_new _ _ _ ht with hold | ⟨other, f, ho, _, hname, hfo, hkey, hfresh⟩
  · simp [InputGuard.hasKey, hold] at hnone
  · obtain rfl := hd.eq_of_name ho (TreeName.input.inj hname)
    obtain rfl := hd.field_eq hw hf hfo hkey.symm
    exact Except.ok.inj (hfresh.symm.trans hs)

lemma settled_self (cache : Cache) : c.Settled cache.store cache := by
  intro type _ field _ hk hk'
  rw [hk'] at hk
  cases hk

/-- What no entry is added to stays settled, if the types whose filling ends are complete. -/
lemma Settled.of_tree_eq {cache' : Cache} (hs : c.Settled first cache)
    (h : c.Grows visited cache.store cache'.store)
    (htree : ∀ name, cache'.store.tree name = cache.store.tree name)
    (hbusy : ∀ next, c.Declares next → cache.isFilling next.name = true →
      cache'.Holds next ∨ cache'.isFilling next.name = true) :
    c.Settled first cache' := by
  intro type hd field hf hk hk' next hnext
  rw [htree] at hk
  rcases hs type hd field hf hk hk' next hnext with hh | hb
  · exact Or.inl (h.holds hh)
  · exact hbusy next (declares_of_input? hnext) hb

lemma holds_put {target : TreeName} {key : String} (s : Schema) (h : cache.Holds type) :
    (cache.put target key s).Holds type :=
  ⟨(Store.has_put _ _ _ _ _).mpr (Or.inr h.1),
    fun f hf => (Store.hasKey_put _ _ _ _ _ _).mpr (Or.inr (h.2 f hf))⟩

/-- A further entry keeps a cache settled if the type behind the field that it is for is complete or
being filled. -/
lemma Settled.put {target : TreeName} {key : String} (hs : c.Settled first cache)
    (hnew : ∀ type, c.Declares type → target = .input type.name →
      ∀ field ∈ type.fields, field.name = key → ∀ next, c.input? field.type.base = some next →
        cache.Holds next ∨ cache.isFilling next.name = true) :
    c.Settled first (cache.put target key s) := by
  intro type hd field hf hk hk' next hnext
  have hbehind : cache.Holds next ∨ cache.isFilling next.name = true := by
    rcases (Store.hasKey_put _ _ _ _ _ _).mp hk with ⟨htarget, hkey⟩ | hold
    · exact hnew type hd htarget field hf hkey.symm next hnext
    · exact hs type hd field hf hold hk' next hnext
  rcases hbehind with hh | hb
  · exact Or.inl (holds_put s hh)
  · exact Or.inr hb

/-- If a type is complete in a cache that is settled from the start, and nothing is being filled,
then so are the types that its fields lead to. -/
lemma Settled.holds_next (hs : c.Settled .empty cache) (hidle : cache.filling = [])
    (hd : c.Declares type) (hh : cache.Holds type) (hl : c.Leads type next) :
    cache.Holds next := by
  obtain ⟨field, hf, hnext⟩ := hl
  rcases hs type hd field hf (hh.2 field hf) rfl next hnext with h | hb
  · exact h
  · simp [Cache.isFilling, hidle] at hb

lemma Leads.declares (hl : c.Leads type next) : c.Declares next := by
  obtain ⟨_, _, hnext⟩ := hl
  exact declares_of_input? hnext

lemma Reachable.declares {ref : TypeRef} (h : c.Reachable ref type) : c.Declares type := by
  obtain ⟨root, hroot, hpath⟩ := h
  cases hpath with
  | refl => exact declares_of_input? hroot
  | tail _ hl => exact hl.declares

lemma Settled.holds_reachable (hs : c.Settled .empty cache) (hidle : cache.filling = [])
    {ref : TypeRef} (hroot : ∀ root, c.input? ref.base = some root → cache.Holds root)
    (h : c.Reachable ref type) : cache.Holds type := by
  obtain ⟨root, hr, hpath⟩ := h
  induction hpath with
  | refl => exact hroot root hr
  | tail hp hl ih => exact hs.holds_next hidle (Reachable.declares ⟨root, hr, hp⟩) ih hl

end Compiler

end InputGuard

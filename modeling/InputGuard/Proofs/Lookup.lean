import InputGuard.Directive.Cache
import Mathlib.Data.List.Nodup
import Mathlib.Tactic.Common

/-!
# Looking up

Keyed lists, stores and caches are read through `lookup?`, `Store.tree` and `Store.has`. This file
says what each operation does to what can be read. No name and no key occurs twice, so lists with
the same entries in another order cannot be told apart by reading.
-/

namespace InputGuard

section KeyedLists

variable {α : Type} {entries entries' : List (String × α)} {key other : String} {v : α}

lemma lookup?_insertKey (key other : String) (v : α) (entries : List (String × α)) :
    lookup? other (insertKey key v entries) =
      if key = other then some v else lookup? other entries := by
  induction entries with
  | nil => rfl
  | cons entry rest ih =>
    obtain ⟨k, w⟩ := entry
    by_cases hk : k = key
    · subst hk
      by_cases ho : k = other <;> simp [insertKey, lookup?, ho]
    · by_cases ho : k = other
      · have hne : key ≠ other := fun h => hk (ho.trans h.symm)
        rw [insertKey, if_neg hk, if_neg hne, lookup?, lookup?, if_pos ho, if_pos ho]
      · simp [insertKey, lookup?, hk, ho, ih]

lemma lookup?_append (key : String) (entries more : List (String × α)) :
    lookup? key (entries ++ more) = (lookup? key entries).or (lookup? key more) := by
  induction entries with
  | nil => rfl
  | cons entry rest ih =>
    obtain ⟨k, v⟩ := entry
    by_cases hk : k = key <;> simp [lookup?, hk, ih]

lemma hasKey_insertKey (key other : String) (v : α) (entries : List (String × α)) :
    hasKey other (insertKey key v entries) = true ↔ key = other ∨ hasKey other entries = true := by
  unfold hasKey
  rw [lookup?_insertKey]
  by_cases h : key = other <;> simp [h]

lemma hasKey_iff : hasKey key entries = true ↔ ∃ v, lookup? key entries = some v :=
  Option.isSome_iff_exists

lemma mem_of_lookup? (h : lookup? key entries = some v) : (key, v) ∈ entries := by
  induction entries with
  | nil => simp [lookup?] at h
  | cons entry rest ih =>
    obtain ⟨k, w⟩ := entry
    by_cases hk : k = key
    · subst hk
      obtain rfl : w = v := by simpa [lookup?] using h
      exact List.mem_cons_self
    · exact List.mem_cons_of_mem _ (ih (by simpa [lookup?, hk] using h))

lemma lookup?_of_mem (hn : (entries.map (·.1)).Nodup) (h : (key, v) ∈ entries) :
    lookup? key entries = some v := by
  induction entries with
  | nil => simp at h
  | cons entry rest ih =>
    obtain ⟨k, w⟩ := entry
    simp only [List.map_cons, List.nodup_cons] at hn
    rcases List.mem_cons.mp h with he | hr
    · obtain ⟨rfl, rfl⟩ := Prod.mk.inj he
      simp [lookup?]
    · have hk : k ≠ key := by
        rintro rfl
        exact hn.1 (List.mem_map.mpr ⟨(k, v), hr, rfl⟩)
      simp [lookup?, hk, ih hn.2 hr]

lemma nodup_insertKey (key : String) (v : α) (hn : (entries.map (·.1)).Nodup) :
    ((insertKey key v entries).map (·.1)).Nodup := by
  induction entries with
  | nil => simp [insertKey]
  | cons entry rest ih =>
    obtain ⟨k, w⟩ := entry
    simp only [List.map_cons, List.nodup_cons] at hn
    by_cases hk : k = key
    · subst hk
      simpa [insertKey] using hn
    · have hmem : k ∉ (insertKey key v rest).map (·.1) := by
        intro hm
        obtain ⟨⟨k', u⟩, hu, rfl⟩ := List.mem_map.mp hm
        have hnone : hasKey k' (insertKey key v rest) = true :=
          hasKey_iff.mpr ⟨u, lookup?_of_mem (ih hn.2) hu⟩
        rcases (hasKey_insertKey _ _ _ _).mp hnone with he | hr
        · exact hk he.symm
        · obtain ⟨u', hu'⟩ := hasKey_iff.mp hr
          exact hn.1 (List.mem_map.mpr ⟨(k', u'), mem_of_lookup? hu', rfl⟩)
      simpa [insertKey, hk] using ⟨by simpa using hmem, ih hn.2⟩

/-- An item is found by its name if no other one has that name. -/
lemma find?_of_mem {β : Type} {items : List β} {name : β → String} (hn : (items.map name).Nodup)
    {item : β} (h : item ∈ items) : items.find? (fun i => name i == name item) = some item := by
  obtain ⟨other, ho⟩ : ∃ other, items.find? (fun i => name i == name item) = some other :=
    Option.isSome_iff_exists.mp (List.find?_isSome.mpr ⟨item, h, beq_self_eq_true _⟩)
  have hname : name other = name item := by simpa using List.find?_some ho
  rw [ho, List.inj_on_of_nodup_map hn (List.mem_of_find?_eq_some ho) h hname]

/-- Lists that read the same hold the same entries. -/
lemma perm_of_lookup?_eq (hn : (entries.map (·.1)).Nodup) (hn' : (entries'.map (·.1)).Nodup)
    (h : ∀ key, lookup? key entries = lookup? key entries') : entries.Perm entries' := by
  refine (List.perm_ext_iff_of_nodup hn.of_map hn'.of_map).mpr ?_
  rintro ⟨key, v⟩
  constructor
  · intro hm
    exact mem_of_lookup? ((h key).symm.trans (lookup?_of_mem hn hm))
  · intro hm
    exact mem_of_lookup? ((h key).trans (lookup?_of_mem hn' hm))

end KeyedLists

namespace Store

@[simp] lemma get?_nil (name : TreeName) : get? ⟨[]⟩ name = none := rfl

lemma get?_cons (name other : TreeName) (tree : Tree) (rest : List (TreeName × Tree)) :
    get? ⟨(name, tree) :: rest⟩ other = if name = other then some tree else get? ⟨rest⟩ other := by
  unfold get?
  rw [List.find?_cons]
  by_cases h : name = other
  · simp [h]
  · simp [h, beq_eq_false_iff_ne.mpr h]

lemma get?_append_of_none {trees rest : List (TreeName × Tree)} {other : TreeName}
    (h : get? ⟨trees⟩ other = none) : get? ⟨trees ++ rest⟩ other = get? ⟨rest⟩ other := by
  induction trees with
  | nil => rfl
  | cons e trees ih =>
    obtain ⟨name, tree⟩ := e
    rw [get?_cons] at h
    by_cases hne : name = other
    · simp [hne] at h
    · rw [List.cons_append, get?_cons, if_neg hne]
      exact ih (by simpa [hne] using h)

lemma get?_append_of_some {trees rest : List (TreeName × Tree)} {other : TreeName} {tree : Tree}
    (h : get? ⟨trees⟩ other = some tree) : get? ⟨trees ++ rest⟩ other = some tree := by
  induction trees with
  | nil => simp at h
  | cons e trees ih =>
    obtain ⟨name, t⟩ := e
    rw [get?_cons] at h
    rw [List.cons_append, get?_cons]
    by_cases hne : name = other
    · simpa [hne] using h
    · rw [if_neg hne] at h ⊢
      exact ih h

lemma get?_replace (name other : TreeName) (tree : Tree) (trees : List (TreeName × Tree)) :
    get? ⟨trees.map fun e => if e.1 = name then (name, tree) else e⟩ other =
      if name = other then (get? ⟨trees⟩ name).map fun _ => tree else get? ⟨trees⟩ other := by
  induction trees with
  | nil => simp
  | cons e trees ih =>
    obtain ⟨n, t⟩ := e
    by_cases hn : n = name
    · subst hn
      rw [List.map_cons, if_pos rfl, get?_cons, get?_cons, get?_cons, ih]
      by_cases ho : n = other <;> simp [ho]
    · rw [List.map_cons, if_neg hn, get?_cons, get?_cons, get?_cons, ih]
      by_cases ho : name = other
      · subst ho
        simp [hn]
      · simp [ho]

lemma get?_set (store : Store) (name other : TreeName) (tree : Tree) :
    (store.set name tree).get? other = if name = other then some tree else store.get? other := by
  obtain ⟨trees⟩ := store
  cases hget : get? ⟨trees⟩ name with
  | none =>
    have hhas : has ⟨trees⟩ name = false := by simp [has, hget]
    rw [set, hhas, if_neg Bool.false_ne_true]
    by_cases ho : name = other
    · subst ho
      rw [get?_append_of_none hget, get?_cons, if_pos rfl, if_pos rfl]
    · cases hother : get? ⟨trees⟩ other with
      | none => rw [get?_append_of_none hother, get?_cons, if_neg ho, if_neg ho, get?_nil]
      | some t => rw [get?_append_of_some hother, if_neg ho]
  | some t =>
    have hhas : has ⟨trees⟩ name = true := by simp [has, hget]
    rw [set, hhas, if_pos rfl, get?_replace, hget]
    rfl

variable (store : Store) (name other : TreeName)

lemma tree_set (tree : Tree) :
    (store.set name tree).tree other = if name = other then tree else store.tree other := by
  unfold Store.tree
  rw [get?_set]
  by_cases h : name = other <;> simp [h]

lemma has_set (tree : Tree) :
    (store.set name tree).has other = true ↔ name = other ∨ store.has other = true := by
  unfold has
  rw [get?_set]
  by_cases h : name = other <;> simp [h]

lemma tree_of_not_has (h : store.has name = false) : store.tree name = [] := by
  have hget : store.get? name = none := by simpa [has] using h
  simp [Store.tree, hget]

@[simp] lemma tree_reserve : (store.reserve name).tree other = store.tree other := by
  unfold reserve
  split
  · rfl
  · rename_i hhas
    rw [tree_set]
    split
    · rename_i he
      subst he
      exact (store.tree_of_not_has name (by simpa using hhas)).symm
    · rfl

lemma has_reserve :
    (store.reserve name).has other = true ↔ name = other ∨ store.has other = true := by
  unfold reserve
  split
  · rename_i hhas
    constructor
    · exact Or.inr
    · rintro (rfl | h)
      · exact hhas
      · exact h
  · exact store.has_set name other []

lemma has_put (key : String) (schema : Schema) :
    (store.put name key schema).has other = true ↔ name = other ∨ store.has other = true :=
  store.has_set name other _

lemma tree_put (key : String) (schema : Schema) :
    (store.put name key schema).tree other =
      if name = other then insertKey key schema (store.tree other) else store.tree other := by
  unfold put
  rw [tree_set]
  split
  · rename_i h
    rw [h]
  · rfl

lemma lookup?_put (key k : String) (schema : Schema) :
    lookup? k ((store.put name key schema).tree other) =
      if name = other ∧ key = k then some schema else lookup? k (store.tree other) := by
  rw [tree_put]
  by_cases hn : name = other
  · rw [if_pos hn, lookup?_insertKey]
    by_cases hk : key = k <;> simp [hn, hk]
  · simp [hn]

lemma hasKey_put (key k : String) (schema : Schema) :
    hasKey k ((store.put name key schema).tree other) = true ↔
      (name = other ∧ key = k) ∨ hasKey k (store.tree other) = true := by
  unfold hasKey
  rw [lookup?_put]
  by_cases h : name = other ∧ key = k <;> simp [h]

lemma has_iff_mem : store.has name = true ↔ name ∈ store.trees.map (·.1) := by
  simp [has, get?]

/-- No name and no key occurs twice. -/
structure Keyed (store : Store) : Prop where
  names : (store.trees.map (·.1)).Nodup
  keys : ∀ name, ((store.tree name).map (·.1)).Nodup

variable {store}

lemma keyed_empty : empty.Keyed := ⟨List.nodup_nil, fun _ => List.nodup_nil⟩

lemma Keyed.set (h : store.Keyed) {tree : Tree} (ht : (tree.map (·.1)).Nodup) :
    (store.set name tree).Keyed := by
  constructor
  · unfold Store.set
    split
    · have hmap : (store.trees.map fun e => if e.1 = name then (name, tree) else e).map (·.1) =
          store.trees.map (·.1) := by
        rw [List.map_map]
        refine List.map_congr_left fun e _ => ?_
        by_cases he : e.1 = name <;> simp [he]
      rw [hmap]
      exact h.names
    · rename_i hhas
      have hmem : name ∉ store.trees.map (·.1) := fun hm => hhas ((store.has_iff_mem name).mpr hm)
      simp only [List.map_append, List.map_cons, List.map_nil]
      exact List.nodup_append.mpr ⟨h.names, List.nodup_singleton _, by
        rintro a ha b hb rfl
        exact hmem (List.mem_singleton.mp hb ▸ ha)⟩
  · intro other
    rw [tree_set]
    split
    · exact ht
    · exact h.keys other

lemma Keyed.put (h : store.Keyed) (key : String) (schema : Schema) :
    (store.put name key schema).Keyed :=
  h.set name (nodup_insertKey key schema (h.keys name))

lemma Keyed.reserve (h : store.Keyed) : (store.reserve name).Keyed := by
  unfold Store.reserve
  split
  · exact h
  · exact h.set name List.nodup_nil

/-- Stores with the same names have the same size. -/
lemma Keyed.size_eq {store' : Store} (h : store.Keyed) (h' : store'.Keyed)
    (hhas : ∀ name, store.has name = true ↔ store'.has name = true) :
    store.size = store'.size := by
  have hperm : (store.trees.map (·.1)).Perm (store'.trees.map (·.1)) := by
    refine (List.perm_ext_iff_of_nodup h.names h'.names).mpr fun name => ?_
    rw [← has_iff_mem, ← has_iff_mem]
    exact hhas name
  simpa [size] using hperm.length_eq

end Store

end InputGuard

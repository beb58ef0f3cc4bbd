import InputGuard.Proofs.Lookup
import Mathlib.Data.List.Basic

/-!
# Where conversion is asked for

`Schema.requestsConversion` is a depth-first search that marks a tree when it opens it. A marked tree
is skipped from then on, also while its own entries are still being looked at. This file shows that
nothing is lost by that: a search that has come to its end without a find has looked at every schema
that can be reached, through items and through entries of trees. It does come to an end, because each
tree that is opened inside others is one more tree of the store.
-/

namespace InputGuard

/-- The schemas that a check of some value against the first one may use. -/
inductive Store.Reaches (store : Store) (schema : Schema) : Schema → Prop
  | self : store.Reaches schema schema
  | item {settings : Settings} {rules : List ArrayRule} {item : Schema} :
    store.Reaches schema (.arrayOf settings rules item) → store.Reaches schema item
  | entry {settings : Settings} {rules : List ObjectRule} {name : TreeName} {key : String}
      {s : Schema} :
    store.Reaches schema (.object settings rules name) → (key, s) ∈ store.tree name →
    store.Reaches schema s

lemma Store.Reaches.trans {store : Store} {schema s t : Schema} (h : store.Reaches schema s)
    (h' : store.Reaches s t) : store.Reaches schema t := by
  induction h' with
  | self => exact h
  | item _ ih => exact ih.item
  | entry _ hmem ih => exact ih.entry hmem

variable {store : Store} {schema : Schema} {opened after : List TreeName}

/-- Whatever a search is told to find in trees is there. -/
def Store.Finds (store : Store) (openTree : TreeName → List TreeName → Search) : Prop :=
  ∀ tree opened after, openTree tree opened = some (true, after) →
    ∃ key s t, (key, s) ∈ store.tree tree ∧ store.Reaches s t ∧ t.converts = true

lemma Schema.exists_converts_of_search {openTree : TreeName → List TreeName → Search}
    (hopen : store.Finds openTree) (h : schema.search openTree opened = some (true, after)) :
    ∃ s, store.Reaches schema s ∧ s.converts = true := by
  induction schema with
  | arrayOf settings rules item ih =>
    unfold Schema.search at h
    split at h
    · exact ⟨_, .self, ‹_›⟩
    · obtain ⟨s, hr, hs⟩ := ih h
      exact ⟨s, Store.Reaches.trans (.item .self) hr, hs⟩
  | object settings rules tree =>
    unfold Schema.search at h
    split at h
    · exact ⟨_, .self, ‹_›⟩
    · dsimp only at h
      split at h
      · simp at h
      · obtain ⟨key, s, t, hmem, hr, ht⟩ := hopen _ _ _ h
        exact ⟨t, Store.Reaches.trans (.entry .self hmem) hr, ht⟩
  | any | string | number | date | boolean | array =>
    unfold Schema.search at h
    split at h
    · exact ⟨_, .self, ‹_›⟩
    · simp at h

lemma Tree.exists_of_search {look : Schema → List TreeName → Search} {tree : Tree}
    (h : tree.search look opened = some (true, after)) :
    ∃ key s before, (key, s) ∈ tree ∧ look s before = some (true, after) := by
  induction tree generalizing opened with
  | nil => simp [Tree.search] at h
  | cons entry rest ih =>
    obtain ⟨key, s⟩ := entry
    rw [Tree.search] at h
    split at h
    · obtain ⟨k, t, before, hmem, ht⟩ := ih h
      exact ⟨k, t, before, List.mem_cons_of_mem _ hmem, ht⟩
    · exact ⟨key, s, opened, List.mem_cons_self, h⟩

lemma Store.finds_search (store : Store) (depth : Nat) : store.Finds (store.search depth) := by
  induction depth with
  | zero => exact fun tree opened after h => nomatch h
  | succ depth ih =>
    intro tree opened after h
    obtain ⟨key, s, before, hmem, hs⟩ := Tree.exists_of_search h
    obtain ⟨t, hr, ht⟩ := Schema.exists_converts_of_search ih hs
    exact ⟨key, s, t, hmem, hr, ht⟩

/-- Whether nothing more can be found from a schema on, if the opened trees are left out. -/
def Schema.Cleared (opened : List TreeName) : Schema → Prop
  | .arrayOf settings rules item =>
    (Schema.arrayOf settings rules item).converts = false ∧ item.Cleared opened
  | .object settings rules tree =>
    (Schema.object settings rules tree).converts = false ∧ tree ∈ opened
  | schema => schema.converts = false

lemma Schema.Cleared.converts (h : schema.Cleared opened) : schema.converts = false := by
  cases schema with
  | arrayOf | object => exact h.1
  | any | string | number | date | boolean | array => exact h

lemma Schema.Cleared.mono (h : schema.Cleared opened) (hsub : opened ⊆ after) :
    schema.Cleared after := by
  induction schema with
  | arrayOf settings rules item ih => exact ⟨h.1, ih h.2⟩
  | object settings rules tree => exact ⟨h.1, hsub h.2⟩
  | any | string | number | date | boolean | array => exact h

/-- What a search that finds nothing does: all entries of the trees that it opens are cleared by the
time it ends. The trees that were open when it began are left to the searches that opened them. -/
structure Store.Clears (store : Store) (opened after : List TreeName) : Prop where
  subset : opened ⊆ after
  cleared : ∀ name ∈ after, name ∉ opened → ∀ key s, (key, s) ∈ store.tree name → s.Cleared after

namespace Store.Clears

lemma refl (store : Store) (opened : List TreeName) : store.Clears opened opened :=
  ⟨List.Subset.refl opened, fun _ h hnot => absurd h hnot⟩

lemma trans {middle : List TreeName} (h : store.Clears opened middle)
    (h' : store.Clears middle after) : store.Clears opened after := by
  refine ⟨List.Subset.trans h.subset h'.subset, fun name hname hnot key s hmem => ?_⟩
  by_cases hmiddle : name ∈ middle
  · exact (h.cleared name hmiddle hnot key s hmem).mono h'.subset
  · exact h'.cleared name hname hmiddle key s hmem

/-- A tree whose entries are cleared counts among those opened by the search. -/
lemma of_opened {name : TreeName} (h : store.Clears (name :: opened) after)
    (hentries : ∀ key s, (key, s) ∈ store.tree name → s.Cleared after) :
    store.Clears opened after := by
  refine ⟨fun other ho => h.subset (List.mem_cons_of_mem _ ho), fun other ho hnot key s hmem => ?_⟩
  by_cases he : other = name
  · exact hentries key s (he ▸ hmem)
  · exact h.cleared other ho (List.not_mem_cons_of_ne_of_not_mem he hnot) key s hmem

end Store.Clears

/-- What is asked of a function that looks through a tree which has just been marked. -/
def Store.ClearsTrees (store : Store) (openTree : TreeName → List TreeName → Search) : Prop :=
  ∀ tree opened after, openTree tree (tree :: opened) = some (false, after) →
    store.Clears opened after ∧ tree ∈ after

lemma Schema.clears_of_search {openTree : TreeName → List TreeName → Search}
    (hopen : store.ClearsTrees openTree) (h : schema.search openTree opened = some (false, after)) :
    store.Clears opened after ∧ schema.Cleared after := by
  induction schema with
  | arrayOf settings rules item ih =>
    unfold Schema.search at h
    split at h
    · simp at h
    · rename_i hself
      obtain ⟨hclears, hitem⟩ := ih h
      exact ⟨hclears, Bool.eq_false_iff.mpr hself, hitem⟩
  | object settings rules tree =>
    unfold Schema.search at h
    split at h
    · simp at h
    · rename_i hself
      dsimp only at h
      split at h
      · rename_i hmem
        cases h
        exact ⟨.refl store opened, Bool.eq_false_iff.mpr hself, by simpa using hmem⟩
      · obtain ⟨hclears, hmem⟩ := hopen _ _ _ h
        exact ⟨hclears, Bool.eq_false_iff.mpr hself, hmem⟩
  | any | string | number | date | boolean | array =>
    unfold Schema.search at h
    split at h
    · simp at h
    · rename_i hself
      cases h
      exact ⟨.refl store opened, Bool.eq_false_iff.mpr hself⟩

lemma Tree.clears_of_search {look : Schema → List TreeName → Search}
    (hlook : ∀ s before after, look s before = some (false, after) →
      store.Clears before after ∧ s.Cleared after) {tree : Tree}
    (h : tree.search look opened = some (false, after)) :
    store.Clears opened after ∧ ∀ key s, (key, s) ∈ tree → s.Cleared after := by
  induction tree generalizing opened with
  | nil =>
    cases h
    exact ⟨.refl store _, fun _ _ hmem => nomatch hmem⟩
  | cons entry rest ih =>
    obtain ⟨key, s⟩ := entry
    rw [Tree.search] at h
    split at h
    · rename_i middle hfirst
      obtain ⟨hclears, hs⟩ := hlook s opened middle hfirst
      obtain ⟨hmore, hrest⟩ := ih h
      refine ⟨hclears.trans hmore, fun k t hmem => ?_⟩
      rcases List.mem_cons.mp hmem with he | hmem
      · cases he
        exact hs.mono hmore.subset
      · exact hrest k t hmem
    · rename_i hother
      exact absurd h (hother after)

lemma Store.clearsTrees_search (store : Store) (depth : Nat) :
    store.ClearsTrees (store.search depth) := by
  induction depth with
  | zero => exact fun tree opened after h => nomatch h
  | succ depth ih =>
    intro tree opened after h
    obtain ⟨hclears, hentries⟩ := Tree.clears_of_search
      (fun s opened after hs => Schema.clears_of_search ih hs) h
    exact ⟨hclears.of_opened hentries, hclears.subset List.mem_cons_self⟩

/-- Once all trees that were opened are cleared, so is every schema that can be reached. -/
lemma Store.Reaches.cleared {s : Schema} (h : store.Reaches schema s)
    (hclears : store.Clears [] opened) (hschema : schema.Cleared opened) : s.Cleared opened := by
  induction h with
  | self => exact hschema
  | item _ ih => exact ih.2
  | entry _ hmem ih => exact hclears.cleared _ ih.2 List.not_mem_nil _ _ hmem

namespace Store

/-- The number of trees of a store that have not been opened. -/
def unopened (store : Store) (opened : List TreeName) : Nat :=
  ((store.trees.map (·.1)).filter (· ∉ opened)).length

lemma unopened_le (store : Store) (opened : List TreeName) :
    store.unopened opened ≤ store.size := by
  calc store.unopened opened ≤ (store.trees.map (·.1)).length := List.length_filter_le _ _
    _ = store.size := by simp [size]

lemma unopened_anti (store : Store) (hsub : opened ⊆ after) :
    store.unopened after ≤ store.unopened opened := by
  apply List.Sublist.length_le
  apply List.monotone_filter_right
  intro name hname
  simp only [decide_eq_true_eq] at hname ⊢
  exact fun h => hname (hsub h)

lemma unopened_cons_lt {name : TreeName} (hhas : store.has name = true) (hnot : name ∉ opened) :
    store.unopened (name :: opened) < store.unopened opened := by
  have hfilter : (store.trees.map (·.1)).filter (· ∉ name :: opened) =
      ((store.trees.map (·.1)).filter (· ∉ opened)).filter (· ≠ name) := by
    rw [List.filter_filter]
    apply List.filter_congr
    intro other _
    simp
  unfold unopened
  rw [hfilter]
  apply List.length_filter_lt_length_iff_exists.mpr
  exact ⟨name, List.mem_filter.mpr ⟨(store.has_iff_mem name).mp hhas, by simpa using hnot⟩, by simp⟩

end Store

/-- A search of the entries of a tree ends if the searches from them do, whatever is opened by
then. -/
lemma Tree.exists_search {look : Schema → List TreeName → Search} {tree : Tree}
    (hlook : ∀ s before, opened ⊆ before → ∃ found after, look s before = some (found, after) ∧
      (found = false → before ⊆ after)) :
    ∃ found after, tree.search look opened = some (found, after) := by
  suffices h : ∀ before, opened ⊆ before →
      ∃ found after, tree.search look before = some (found, after) from
    h opened (List.Subset.refl opened)
  induction tree with
  | nil => exact fun before _ => ⟨false, before, rfl⟩
  | cons entry rest ih =>
    obtain ⟨key, s⟩ := entry
    intro before hsub
    obtain ⟨found, after, hs, hgrows⟩ := hlook s before hsub
    rw [Tree.search, hs]
    cases found with
    | true => exact ⟨true, after, rfl⟩
    | false => exact ih after (List.Subset.trans hsub (hgrows rfl))

/-- A search ends if it may open more trees inside each other than there are left. -/
lemma Schema.exists_search (schema : Schema) {depth : Nat} (hdepth : store.unopened opened < depth) :
    ∃ found after, schema.search (store.search depth) opened = some (found, after) := by
  induction depth generalizing schema opened with
  | zero => exact absurd hdepth (Nat.not_lt_zero _)
  | succ depth ih =>
    induction schema with
    | arrayOf settings rules item ihitem =>
      unfold Schema.search
      split
      · exact ⟨true, opened, rfl⟩
      · exact ihitem
    | object settings rules tree =>
      unfold Schema.search
      split
      · exact ⟨true, opened, rfl⟩
      · dsimp only
        split
        · exact ⟨false, opened, rfl⟩
        · rename_i hnot
          rw [Store.search]
          cases hhas : store.has tree with
          | false =>
            rw [store.tree_of_not_has tree hhas]
            exact ⟨false, tree :: opened, rfl⟩
          | true =>
            have hless : store.unopened (tree :: opened) < store.unopened opened :=
              Store.unopened_cons_lt hhas (by simpa using hnot)
            apply Tree.exists_search
            intro s before hsub
            have hbefore : store.unopened before < depth := by
              have := store.unopened_anti hsub
              omega
            obtain ⟨found, after, hs⟩ : ∃ found after,
                s.search (store.search depth) before = some (found, after) := ih s hbefore
            refine ⟨found, after, hs, ?_⟩
            rintro rfl
            exact (Schema.clears_of_search (store.clearsTrees_search depth) hs).1.subset
    | any | string | number | date | boolean | array =>
      unfold Schema.search
      split
      · exact ⟨true, opened, rfl⟩
      · exact ⟨false, opened, rfl⟩

namespace Schema

/-- A search that may go deep enough ends, with a find exactly if there is something to be found. -/
lemma exists_search_iff (store : Store) (schema : Schema) {depth : Nat}
    (hdepth : store.size < depth) :
    ∃ found after, schema.search (store.search depth) [] = some (found, after) ∧
      (found = true ↔ ∃ s, store.Reaches schema s ∧ s.converts = true) := by
  obtain ⟨found, after, h⟩ := schema.exists_search
    (Nat.lt_of_le_of_lt (store.unopened_le []) hdepth)
  refine ⟨found, after, h, ?_⟩
  cases found with
  | true => exact ⟨fun _ => exists_converts_of_search (store.finds_search depth) h, fun _ => rfl⟩
  | false =>
    obtain ⟨hclears, hschema⟩ := clears_of_search (store.clearsTrees_search depth) h
    refine ⟨nofun, ?_⟩
    rintro ⟨s, hr, hs⟩
    rw [(hr.cleared hclears hschema).converts] at hs
    exact hs

/-- The search for conversion finds exactly what can be reached. -/
lemma requestsConversion_eq_true :
    schema.requestsConversion store = true ↔
      ∃ s, store.Reaches schema s ∧ s.converts = true := by
  obtain ⟨found, after, h, hiff⟩ := exists_search_iff store schema (Nat.lt_succ_self store.size)
  unfold requestsConversion
  rw [h]
  exact hiff

lemma converts_iff (schema : Schema) :
    schema.converts = true ↔ ∃ v, lookup? "convert" schema.overrides = some v ∧ v.truthy = true := by
  unfold converts Preferences.override
  cases lookup? "convert" schema.overrides with
  | none => simp
  | some v => simp

/-- The search for conversion ends, with the same answer at all depths from the one on that it is
run with: whether some schema that can be reached overrides the preference with a true value. -/
theorem requestsConversion_iff_override (store : Store) (schema : Schema) :
    (∀ more, ∃ opened, schema.search (store.search (store.size + 1 + more)) [] =
        some (schema.requestsConversion store, opened)) ∧
      (schema.requestsConversion store = true ↔
        ∃ s, store.Reaches schema s ∧
          ∃ v, lookup? "convert" s.overrides = some v ∧ v.truthy = true) := by
  constructor
  · intro more
    have hdepth : store.size < store.size + 1 + more := by omega
    obtain ⟨found, opened, h, hiff⟩ := exists_search_iff store schema hdepth
    have hfound : found = schema.requestsConversion store := by
      rw [Bool.eq_iff_iff, hiff, requestsConversion_eq_true]
    exact ⟨opened, hfound ▸ h⟩
  · rw [requestsConversion_eq_true]
    simp only [converts_iff]

/-- The tree of nodes is open when the search comes back to it, through a schema that converts. -/
example :
    let node (overrides : Entries) : Schema := .object ⟨overrides, none⟩ [] (.input "Node")
    let store : Store :=
      ⟨[(.input "Node", [("next", .arrayOf .plain [] (node [("convert", .str "yes")]))])]⟩
    (node []).requestsConversion store = true := by decide

/-- A schema that does not request conversion leads to none that does. -/
lemma requestsConversion_of_leads {s : Schema} (hr : store.Reaches schema s)
    (h : schema.requestsConversion store = false) : s.requestsConversion store = false := by
  by_contra hs
  obtain ⟨t, ht, hconverts⟩ := requestsConversion_eq_true.mp (by simpa using hs)
  rw [requestsConversion_eq_true.mpr ⟨t, hr.trans ht, hconverts⟩] at h
  exact Bool.noConfusion h

lemma converts_eq_false (h : schema.requestsConversion store = false) :
    schema.converts = false := by
  by_contra hs
  rw [requestsConversion_eq_true.mpr ⟨schema, .self, by simpa using hs⟩] at h
  exact Bool.noConfusion h

end Schema

end InputGuard

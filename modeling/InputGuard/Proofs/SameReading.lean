import InputGuard.Proofs.GuardedCalls
import InputGuard.Proofs.StoreFrame
import InputGuard.Schema.Describe
import Mathlib.Data.String.Basic

/-!
# Stores that read the same

Two stores with the same entries under the same names may keep them in another order. Neither checks
nor searches for conversion nor descriptions can tell them apart.
-/

namespace InputGuard

/-- Two stores that give the same answers to all questions about names and keys. -/
structure Store.SameReading (store store' : Store) : Prop where
  has : ∀ name, store.has name = true ↔ store'.has name = true
  lookup : ∀ name key, lookup? key (store.tree name) = lookup? key (store'.tree name)
  keyed : store.Keyed
  keyed' : store'.Keyed

variable {store store' : Store}

namespace Store.SameReading

lemma symm (h : store.SameReading store') : store'.SameReading store :=
  ⟨fun name => (h.has name).symm, fun name key => (h.lookup name key).symm, h.keyed', h.keyed⟩

lemma perm (h : store.SameReading store') (name : TreeName) :
    (store.tree name).Perm (store'.tree name) :=
  perm_of_lookup?_eq (h.keyed.keys name) (h.keyed'.keys name) (h.lookup name)

lemma reaches (h : store.SameReading store') {schema s : Schema}
    (hr : store.Reaches schema s) : store'.Reaches schema s := by
  induction hr with
  | self => exact .self
  | item _ ih => exact ih.item
  | entry _ hmem ih => exact ih.entry ((h.perm _).mem_iff.mp hmem)

lemma size_eq (h : store.SameReading store') : store.size = store'.size :=
  h.keyed.size_eq h.keyed' h.has

end Store.SameReading

open Store.SameReading

lemma Schema.requestsConversion_congr (h : store.SameReading store') (schema : Schema) :
    schema.requestsConversion store = schema.requestsConversion store' := by
  refine Bool.eq_iff_iff.mpr ?_
  rw [requestsConversion_eq_true, requestsConversion_eq_true]
  constructor
  · rintro ⟨s, hr, hs⟩
    exact ⟨s, h.reaches hr, hs⟩
  · rintro ⟨s, hr, hs⟩
    exact ⟨s, h.symm.reaches hr, hs⟩

lemma Store.SameReading.agreeFrom (h : store.SameReading store') (schema : Schema) :
    store.AgreeFrom store' schema := fun _ _ name _ => h.lookup name

theorem guardArguments_congr (h : store.SameReading store') (config : Config) (env : Environment)
    (tree : TreeName) (arguments : Entries) :
    guardArguments config store env tree arguments =
      guardArguments config store' env tree arguments := by
  rw [guardArguments_eq, guardArguments_eq,
    Schema.validateEntries_congr (h.agreeFrom (.object .plain [] tree)),
    Schema.requestsConversion_congr h]

/-- Keys that are all different have only one order. -/
lemma sortByKey_eq_of_perm {α : Type} {entries entries' : List (String × α)}
    (hn : (entries.map (·.1)).Nodup) (h : entries.Perm entries') :
    sortByKey entries = sortByKey entries' := by
  have hsorted : ∀ es : List (String × α),
      (sortByKey es).Pairwise fun a b => decide (a.1 ≤ b.1) = true := by
    intro es
    refine List.pairwise_mergeSort (fun a b c hab hbc => ?_) (fun a b => ?_) es
    · simp only [decide_eq_true_eq] at hab hbc ⊢
      exact le_trans hab hbc
    · simpa using le_total a.1 b.1
  have hperm : (sortByKey entries).Perm (sortByKey entries') :=
    (List.mergeSort_perm entries _).trans (h.trans (List.mergeSort_perm entries' _).symm)
  refine hperm.eq_of_pairwise ?_ (hsorted entries) (hsorted entries')
  intro a b ha hb hab hba
  simp only [decide_eq_true_eq] at hab hba
  have hain : a ∈ entries := (List.mergeSort_perm entries _).mem_iff.mp ha
  have hbin : b ∈ entries := h.mem_iff.mpr ((List.mergeSort_perm entries' _).mem_iff.mp hb)
  exact List.inj_on_of_nodup_map hn hain hbin (le_antisymm hab hba)

namespace Schema

lemma headline_congr (h : store.SameReading store') (schema : Schema) :
    schema.headline store = schema.headline store' := by
  unfold headline
  rw [requestsConversion_congr h]

lemma describeWith_congr (h : store.SameReading store')
    (open_ : TreeName → Numbering (List (String × Description))) (schema : Schema) :
    schema.describeWith store open_ = schema.describeWith store' open_ := by
  induction schema with
  | arrayOf settings rules item ih => simp only [describeWith, headline_congr h, ih]
  | any | string | number | date | boolean | array | object =>
    simp only [describeWith, headline_congr h]

end Schema

lemma Store.openTree_congr (h : store.SameReading store') (depth : Nat) :
    store.openTree depth = store'.openTree depth := by
  induction depth with
  | zero => rfl
  | succ depth ih =>
    funext name
    rw [openTree, openTree, sortByKey_eq_of_perm (h.keyed.keys name) (h.perm name)]
    simp only [ih, Schema.describeWith_congr h]

theorem Schema.describe_congr (h : store.SameReading store') (schema : Schema) :
    schema.describe store = schema.describe store' := by
  unfold describe
  rw [h.size_eq, Store.openTree_congr h, describeWith_congr h]

end InputGuard

import InputGuard.Proofs.Relaxation
import InputGuard.Proofs.StableSorts
import Mathlib.Data.Int.ConditionallyCompleteOrder
import Mathlib.Data.Sum.Order
import Mathlib.Order.ConditionallyCompleteLattice.Basic
import Mathlib.Order.WithBot

/-!
# Sorted lists

The rule for sorting, on items whose keys are all numbers or all texts. Such keys have ranks in a
linear order. With conversion, the rule gives the items sorted stably, in either direction. Without it,
the rule accepts exactly the items whose keys are in order already. It does not look at the keys for
that but takes an item for unmoved if an equal one stands in its place; equal items have keys of one
rank, so the ranks of the sorted items are those of the items as they stood.
-/

namespace InputGuard

/-- The place of a number in the order of all of them. -/
def Place.rank : Place → WithBot (WithTop ℤ)
  | below => ⊥
  | point n => ((n : WithTop ℤ) : WithBot (WithTop ℤ))
  | above => ((⊤ : WithTop ℤ) : WithBot (WithTop ℤ))

lemma Place.before_eq (p q : Place) : p.before q = decide (p.rank < q.rank) := by
  have htop : ∀ n : ℤ, ((n : WithTop ℤ) : WithBot (WithTop ℤ)) < ⊤ := fun n =>
    WithBot.coe_lt_coe.mpr (WithTop.coe_lt_top n)
  cases p <;> cases q <;> simp [before, rank, WithBot.bot_lt_coe, htop]

lemma Place.rank_injective : Function.Injective Place.rank := by
  intro p q h
  cases p <;> cases q <;> simp_all [rank]

namespace Value

/-- The rank of a number or a text among its like. -/
def rank : Value → Lex (WithBot (WithTop ℤ) ⊕ String)
  | str s => toLex (.inr s)
  | v => toLex (.inl ((v.number?.bind Number.place?).elim ⊥ Place.rank))

/-- Keys that are all numbers, truth values among them and none undefined, or all texts. -/
inductive Sortable (keys : List Value) : Prop
  | numbers (h : ∀ k ∈ keys, ∃ x p, k.number? = some x ∧ x.place? = some p)
  | texts (h : ∀ k ∈ keys, ∃ s, k = str s)

variable {a b : Value} {keys : List Value}

lemma Sortable.subset {others : List Value} (h : Sortable keys) (hsub : others ⊆ keys) :
    Sortable others := by
  cases h with
  | numbers h => exact .numbers fun k hk => h k (hsub hk)
  | texts h => exact .texts fun k hk => h k (hsub hk)

lemma rank_number {x : Number} {p : Place} (ha : a.number? = some x) (hp : x.place? = some p) :
    a.rank = toLex (.inl p.rank) := by
  cases a <;> cases ha <;> simp [rank, number?, hp]

lemma Sortable.rankedBy (h : Sortable keys) : RankedBy before? rank keys := by
  intro a ha b hb
  cases h with
  | numbers h =>
    obtain ⟨x, p, hx, hp⟩ := h a ha
    obtain ⟨y, q, hy, hq⟩ := h b hb
    have hlt : x.lt y = p.before q := by rw [Number.lt, hp, hq]
    rw [before?_number_number hx hy, hlt, Place.before_eq, rank_number hx hp, rank_number hy hq]
    simp only [Sum.Lex.inl_lt_inl_iff]
  | texts h =>
    obtain ⟨s, rfl⟩ := h a ha
    obtain ⟨t, rfl⟩ := h b hb
    simp only [before?, rank, Sum.Lex.inr_lt_inr_iff]

/-- What is equal to a key has its rank. -/
lemma Sortable.rank_eq (h : Sortable keys) (ha : a ∈ keys) (hsame : a.same b = true) :
    a.rank = b.rank := by
  cases h with
  | numbers h =>
    obtain ⟨x, p, hx, hp⟩ := h a ha
    obtain ⟨y, hy, hxy⟩ := (same_number hx).mp hsame
    obtain ⟨q, hq, hq'⟩ := Number.same_iff.mp hxy
    obtain rfl : p = q := Option.some.inj (hp.symm.trans hq)
    rw [rank_number hx hp, rank_number hy hq']
  | texts h =>
    obtain ⟨s, rfl⟩ := h a ha
    rw [same_str.mp hsame]

/-- Keys of one rank are equal. -/
lemma Sortable.same_of_rank_eq (h : Sortable keys) (ha : a ∈ keys) (hb : b ∈ keys)
    (hrank : a.rank = b.rank) : a.same b = true := by
  cases h with
  | numbers h =>
    obtain ⟨x, p, hx, hp⟩ := h a ha
    obtain ⟨y, q, hy, hq⟩ := h b hb
    rw [rank_number hx hp, rank_number hy hq, toLex_inj, Sum.inl.injEq] at hrank
    obtain rfl : p = q := Place.rank_injective hrank
    rw [same_number_number hx hy]
    exact Number.same_iff.mpr ⟨p, hp, hq⟩
  | texts h =>
    obtain ⟨s, rfl⟩ := h a ha
    obtain ⟨t, rfl⟩ := h b hb
    rw [rank, rank, toLex_inj, Sum.inr.injEq] at hrank
    exact same_str.mpr (congrArg str hrank.symm)

end Value

namespace SortOrder

variable {α β : Type} [LinearOrder β] {before? : α → α → Option Bool} {rank : α → β}
  {xs ys : List α}

/-- Whether one element may stand before another. -/
def Agrees (before? : α → α → Option Bool) (order : SortOrder) (a b : α) : Prop :=
  match order with
  | ascending => before? b a = some false
  | descending => before? a b = some false

instance (before? : α → α → Option Bool) (order : SortOrder) (a b : α) :
    Decidable (order.Agrees before? a b) :=
  match order with
  | ascending => inferInstanceAs (Decidable (before? b a = some false))
  | descending => inferInstanceAs (Decidable (before? a b = some false))

/-- Whether one rank may stand before another. -/
def Le (order : SortOrder) (r s : β) : Prop :=
  match order with
  | ascending => r ≤ s
  | descending => s ≤ r

lemma pairwise_agrees_iff (order : SortOrder) (h : RankedBy before? rank xs) :
    xs.Pairwise (order.Agrees before?) ↔ (xs.map rank).Pairwise order.Le := by
  rw [List.pairwise_map]
  apply List.Pairwise.iff_of_mem
  intro a b ha hb
  cases order with
  | ascending => exact h.before?_eq_false hb ha
  | descending => exact h.before?_eq_false ha hb

/-- What sorting by ranks gives, in either direction. -/
structure StableSort (rank : α → β) (order : SortOrder) (xs ys : List α) : Prop where
  perm : ys.Perm xs
  ordered : (ys.map rank).Pairwise order.Le
  stable : ∀ r, ys.filter (rank · = r) = xs.filter (rank · = r)

theorem exists_sort? (order : SortOrder) (h : RankedBy before? rank xs) :
    ∃ ys, order.sort? before? xs = some ys ∧ order.StableSort rank xs ys := by
  cases order with
  | ascending =>
    obtain ⟨ys, hys, hperm, hascend, hstable⟩ := InputGuard.exists_sort? h
    exact ⟨ys, hys, hperm, List.pairwise_map.mpr hascend, hstable⟩
  | descending =>
    have hreverse : RankedBy before? rank xs.reverse := h.subset (List.reverse_perm xs).subset
    obtain ⟨zs, hzs, hperm, hascend, hstable⟩ := InputGuard.exists_sort? hreverse
    refine ⟨zs.reverse, by simp [sort?, sortDescending?, hzs], ?_, ?_, fun r => ?_⟩
    · exact (List.reverse_perm zs).trans (hperm.trans (List.reverse_perm xs))
    · rw [List.map_reverse, List.pairwise_reverse]
      exact List.pairwise_map.mpr hascend
    · rw [List.filter_reverse, hstable r, List.filter_reverse, List.reverse_reverse]

/-- What is in order is left alone. -/
theorem sort?_of_ordered (order : SortOrder) (h : RankedBy before? rank xs)
    (hxs : (xs.map rank).Pairwise order.Le) : order.sort? before? xs = some xs := by
  cases order with
  | ascending => exact sort?_of_ascend h (List.pairwise_map.mp hxs)
  | descending =>
    have hreverse : RankedBy before? rank xs.reverse := h.subset (List.reverse_perm xs).subset
    have hascend : RanksAscend rank xs.reverse := by
      unfold RanksAscend
      rw [List.pairwise_reverse]
      exact List.pairwise_map.mp hxs
    simp [sort?, sortDescending?, sort?_of_ascend hreverse hascend]

end SortOrder

namespace KeyPath

/-- The keys of items that all have one. -/
abbrev Keys (by_ : KeyPath) (items keys : List Value) : Prop :=
  List.Forall₂ (fun item key => by_.reach item = .ok (some key)) items keys

/-- Whether an item has a key that is equal to `k`. -/
def hasKey (by_ : KeyPath) (k item : Value) : Bool :=
  match by_.reach item with
  | .ok (some key) => key.same k
  | _ => false

variable {by_ : KeyPath} {item other key key' : Value} {keys : List Value}

/-- The keys of equal items have one rank. -/
lemma rank_eq_of_same (hkeys : Value.Sortable keys) (hmem : key ∈ keys)
    (hkey : by_.reach item = .ok (some key)) (hkey' : by_.reach other = .ok (some key'))
    (hsame : item.same other = true) : key.rank = key'.rank := by
  cases by_ with
  | whole =>
    cases hkey
    cases hkey'
    exact hkeys.rank_eq hmem hsame
  | path text =>
    obtain ⟨l, hl, hkl⟩ := exists_follow? hsame (Except.ok.inj hkey)
    obtain rfl : l = key' := Option.some.inj (hl.symm.trans (Except.ok.inj hkey'))
    exact hkeys.rank_eq hmem hkl
  | unusable => cases hkey

end KeyPath

namespace ArrayRule

variable {by_ : KeyPath} {order : SortOrder} {items keys : List Value} {ks sorted : List Keyed}
  {visit : Visit}

/-- The order of items by their keys. -/
abbrev Keyed.before? (a b : Keyed) : Option Bool := a.key.before? b.key

abbrev Keyed.rank (k : Keyed) : Lex (WithBot (WithTop ℤ) ⊕ String) := k.key.rank

/-- Items with their keys and positions. -/
structure KeyedBy (by_ : KeyPath) (items keys : List Value) (ks : List Keyed) : Prop where
  items_eq : ks.map (·.item) = items
  keys_eq : ks.map (·.key) = keys
  position : ∀ (i : Nat) k, ks[i]? = some k → k.position = i
  reach : ∀ k ∈ ks, by_.reach k.item = .ok (some k.key)

lemma exists_keyed (h : by_.Keys items keys) :
    ∃ ks, items.mapM by_.reach = .ok (keys.map some) ∧
      keyed? items (keys.map some) 0 = some ks ∧ KeyedBy by_ items keys ks := by
  have hkeys : List.Forall₂ (fun item key => by_.reach item = .ok key) items (keys.map some) := by
    rw [List.forall₂_map_right_iff]
    exact h
  have hsome : ∀ i, ∃ ks, keyed? items (keys.map some) i = some ks ∧ ks.map (·.key) = keys := by
    clear hkeys
    induction h with
    | nil => exact fun i => ⟨[], rfl, rfl⟩
    | @cons item key _ _ _ _ ih =>
      intro i
      obtain ⟨ks, hks, hmap⟩ := ih (i + 1)
      exact ⟨⟨key, item, i⟩ :: ks, by simp [keyed?, hks], by rw [List.map_cons, hmap]⟩
  obtain ⟨ks, hks, hmap⟩ := hsome 0
  obtain ⟨hitems, hplaces⟩ := getElem?_of_keyed? hkeys hks
  refine ⟨ks, mapM_eq_ok.mpr hkeys, hks, hitems, hmap, fun i k hk => ?_, fun k hk => ?_⟩
  · rw [(hplaces i k hk).1, Nat.zero_add]
  · obtain ⟨i, hi⟩ := List.mem_iff_getElem?.mp hk
    exact (hplaces i k hi).2

namespace KeyedBy

lemma mem_keys (h : KeyedBy by_ items keys ks) {k : Keyed} (hk : k ∈ ks) : k.key ∈ keys := by
  rw [← h.keys_eq]
  exact List.mem_map_of_mem hk

lemma rankedBy (h : KeyedBy by_ items keys ks) (hkeys : Value.Sortable keys) :
    RankedBy Keyed.before? Keyed.rank ks :=
  fun a ha b hb => hkeys.rankedBy a.key (h.mem_keys ha) b.key (h.mem_keys hb)

lemma map_rank (h : KeyedBy by_ items keys ks) : ks.map Keyed.rank = keys.map Value.rank := by
  rw [← h.keys_eq, List.map_map]
  rfl

/-- Keyed items may be given in another order, with the keys in that order. -/
lemma keys_of_perm (h : KeyedBy by_ items keys ks) (hperm : sorted.Perm ks) :
    by_.Keys (sorted.map (·.item)) (sorted.map (·.key)) := by
  unfold KeyPath.Keys
  rw [List.forall₂_map_left_iff, List.forall₂_map_right_iff, List.forall₂_same]
  exact fun k hk => h.reach k (hperm.subset hk)

/-- Items that are taken for unmoved have the ranks that stood there. -/
lemma map_rank_of_unmoved (h : KeyedBy by_ items keys ks) (hkeys : Value.Sortable keys)
    (hperm : sorted.Perm ks) (hunmoved : unmoved sorted items 0 = true) :
    sorted.map Keyed.rank = ks.map Keyed.rank := by
  apply List.ext_getElem (by simp [hperm.length_eq])
  intro j hj hj'
  rw [List.length_map] at hj hj'
  rw [List.getElem_map, List.getElem_map]
  have hmem : sorted[j] ∈ ks := hperm.subset (List.getElem_mem hj)
  have hstood : ks[j]? = some ks[j] := List.getElem?_eq_getElem hj'
  have hitem : items[j]? = some ks[j].item := by
    rw [← h.items_eq, List.getElem?_map, hstood]
    rfl
  rcases unmoved_getElem? hunmoved (List.getElem?_eq_getElem hj) hitem with hposition | hsame
  · -- an item with this position is the one that stood here
    obtain ⟨j', hj'⟩ := List.mem_iff_getElem?.mp hmem
    have heq : j' = j := by
      have hplace := h.position j' _ hj'
      omega
    rw [heq, hstood] at hj'
    rw [Option.some.inj hj']
  · exact KeyPath.rank_eq_of_same hkeys (h.mem_keys hmem) (h.reach _ hmem)
      (h.reach _ (List.getElem_mem _)) hsame

/-- Of items with equal keys, the sorted list has all, and in the order in which they stood. -/
lemma filter_hasKey (h : KeyedBy by_ items keys ks) (hkeys : Value.Sortable keys)
    (hsorted : order.StableSort Keyed.rank ks sorted) (key : Value) :
    (sorted.map (·.item)).filter (by_.hasKey key) = items.filter (by_.hasKey key) := by
  have hhas : ∀ k ∈ ks, by_.hasKey key k.item = k.key.same key := by
    intro k hk
    rw [KeyPath.hasKey, h.reach k hk]
  rw [← h.items_eq, List.filter_map, List.filter_map]
  congr 1
  by_cases hex : ∃ k ∈ ks, k.key.same key = true
  · obtain ⟨k, hk, hkey⟩ := hex
    have hclass : ∀ a ∈ ks, (by_.hasKey key ∘ fun k => k.item) a = decide (a.rank = k.rank) := by
      intro a ha
      rw [Function.comp_apply, hhas a ha, Bool.eq_iff_iff, decide_eq_true_iff]
      constructor
      · intro hsame
        exact (hkeys.rank_eq (h.mem_keys ha) hsame).trans
          (hkeys.rank_eq (h.mem_keys hk) hkey).symm
      · intro hrank
        exact Value.same_trans
          (hkeys.same_of_rank_eq (h.mem_keys ha) (h.mem_keys hk) hrank) hkey
    rw [List.filter_congr hclass,
      List.filter_congr fun a ha => hclass a (hsorted.perm.subset ha)]
    exact hsorted.stable k.rank
  · have hnone : ∀ a ∈ ks, ¬(by_.hasKey key ∘ fun k => k.item) a = true := by
      intro a ha hsame
      rw [Function.comp_apply, hhas a ha] at hsame
      exact hex ⟨a, ha, hsame⟩
    rw [List.filter_eq_nil_iff.mpr hnone,
      List.filter_eq_nil_iff.mpr fun a ha => hnone a (hsorted.perm.subset ha)]

end KeyedBy

/-- The context of the issue that a list is not sorted. -/
def sortParticulars (order : SortOrder) (by_ : KeyPath) : Entries :=
  [("order", .str order.name), ("by", .str (pathText by_))]

/-- On items with keys that can be put in order, the rule has sorted them. -/
lemma exists_sorted (order : SortOrder) (hkeys : by_.Keys items keys)
    (hsortable : Value.Sortable keys) :
    ∃ ks sorted, KeyedBy by_ items keys ks ∧ order.sort? Keyed.before? ks = some sorted ∧
      order.StableSort Keyed.rank ks sorted ∧
        ∀ visit, (sort order by_).check visit items =
          if visit.prefs.convert then .ok (sorted.map (·.item))
          else if unmoved sorted items 0 then .ok items
          else visit.refuse .arraySort (.list items) (sortParticulars order by_) := by
  obtain ⟨ks, hreach, hks, hkeyed⟩ := exists_keyed hkeys
  obtain ⟨sorted, hsort, hsorted⟩ := order.exists_sort? (hkeyed.rankedBy hsortable)
  refine ⟨ks, sorted, hkeyed, hsort, hsorted, fun visit => ?_⟩
  have hbind : ((keyed? items (keys.map some) 0).bind fun ks =>
      order.sort? (fun a b => a.key.before? b.key) ks) = some sorted := by
    rw [hks]
    exact hsort
  simp only [check, checkSort, hreach, orFault, bind, Except.bind, hbind]
  rfl

lemma unmoved_self {i : Nat} (hposition : ∀ (j : Nat) k, ks[j]? = some k → k.position = i + j) :
    unmoved ks (ks.map (·.item)) i = true := by
  induction ks generalizing i with
  | nil => rfl
  | cons k rest ih =>
    have hk : k.position = i := hposition 0 k rfl
    have hrest : unmoved rest (rest.map (·.item)) (i + 1) = true := by
      apply ih
      intro j k' hk'
      have hplace := hposition (j + 1) k' hk'
      omega
    simp [unmoved, hk, hrest]

/-- Items whose keys are in order pass, with conversion and without. -/
lemma check_of_ordered (order : SortOrder) (hkeys : by_.Keys items keys)
    (hsortable : Value.Sortable keys) (hordered : keys.Pairwise (order.Agrees Value.before?))
    (visit : Visit) : (sort order by_).check visit items = .ok items := by
  obtain ⟨ks, sorted, hkeyed, hsort, _, hcheck⟩ := exists_sorted order hkeys hsortable
  have hranks : (ks.map Keyed.rank).Pairwise order.Le := by
    rw [hkeyed.map_rank, ← order.pairwise_agrees_iff hsortable.rankedBy]
    exact hordered
  have hself : sorted = ks :=
    Option.some.inj (hsort.symm.trans (order.sort?_of_ordered (hkeyed.rankedBy hsortable) hranks))
  have hunmoved : unmoved sorted items 0 = true := by
    rw [hself, ← hkeyed.items_eq]
    apply unmoved_self
    intro j k hk
    rw [hkeyed.position j k hk, Nat.zero_add]
  rw [hcheck, hunmoved, hself, hkeyed.items_eq]
  simp

/-- A list is not sorted if an item has no key. -/
lemma check_of_missing (order : SortOrder) {item : Value} (hitem : item ∈ items)
    (hmissing : by_.reach item = .ok none) (visit : Visit) :
    (sort order by_).check visit items = visit.refuse .arraySortMismatching (.list items) [] := by
  cases by_ with
  | whole | unusable => cases hmissing
  | path text =>
    have hnone : ∀ i, keyed? items
        (items.map (KeyPath.follow? ((splitOnChar '.' text.toList).map String.ofList))) i = none := by
      induction items with
      | nil => cases hitem
      | cons first rest ih =>
        intro i
        rw [List.map_cons, keyed?]
        rcases List.mem_cons.mp hitem with rfl | hrest
        · rw [Except.ok.inj hmissing]
          rfl
        · rw [ih hrest]
          cases KeyPath.follow? _ first <;> rfl
    have hreach : items.mapM (KeyPath.path text).reach = .ok
        (items.map (KeyPath.follow? ((splitOnChar '.' text.toList).map String.ofList))) := by
      rw [mapM_eq_ok, List.forall₂_map_right_iff, List.forall₂_same]
      exact fun _ _ => rfl
    simp only [check, checkSort, hreach, orFault, bind, Except.bind, hnone, Option.bind_none]

/-- A list sorted by the keys of its items, with equal keys in the order in which they stood. -/
structure SortedBy (by_ : KeyPath) (order : SortOrder) (items sorted : List Value) : Prop where
  perm : sorted.Perm items
  ordered : ∃ keys, by_.Keys sorted keys ∧ keys.Pairwise (order.Agrees Value.before?)
  stable : ∀ key, sorted.filter (by_.hasKey key) = items.filter (by_.hasKey key)

def one : Binary64 := .finite ⟨false, twoTo 52, -52, by decide⟩

/-- Ratings whose last two scores are equal, and one that has no score. -/
def ratings : List Value := [
  .object [("by", .str "ann"), ("score", .int 3)],
  .object [("by", .str "bob"), ("score", .bool true)],
  .object [("by", .str "cleo"), ("score", .float one)]]

def unrated : Value := .object [("by", .str "dora")]

end ArrayRule

end InputGuard

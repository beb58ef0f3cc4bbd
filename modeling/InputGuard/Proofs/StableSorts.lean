import InputGuard.Proofs.SortedRuns
import Mathlib.Order.Lattice

/-!
# Stable sorting

Where the elements of a list have ranks in a linear order and are compared by them, sorting gives a
list, its ranks never go down, and the elements of each rank stand in the order in which they stood
before. A descending first run may be turned around, since no rank occurs twice in it. Insertion keeps
the order of equal elements because an element goes behind all those that it does not come before.
-/

namespace InputGuard

variable {α β : Type} [LinearOrder β] {before? : α → α → Option Bool} {rank : α → β} {x last : α}
  {xs ys run after sorted : List α}

/-- The elements of a list are compared by their ranks. -/
def RankedBy (before? : α → α → Option Bool) (rank : α → β) (xs : List α) : Prop :=
  ∀ a ∈ xs, ∀ b ∈ xs, before? a b = some (decide (rank a < rank b))

/-- The ranks never go down. -/
abbrev RanksAscend (rank : α → β) (xs : List α) : Prop := xs.Pairwise fun a b => rank a ≤ rank b

namespace RankedBy

lemma subset (h : RankedBy before? rank ys) (hsub : xs ⊆ ys) : RankedBy before? rank xs :=
  fun a ha b hb => h a (hsub ha) b (hsub hb)

lemma before?_eq_true (h : RankedBy before? rank xs) {a b : α} (ha : a ∈ xs) (hb : b ∈ xs) :
    before? a b = some true ↔ rank a < rank b := by
  rw [h a ha b hb, Option.some.injEq, decide_eq_true_iff]

lemma before?_eq_false (h : RankedBy before? rank xs) {a b : α} (ha : a ∈ xs) (hb : b ∈ xs) :
    before? a b = some false ↔ rank b ≤ rank a := by
  rw [h a ha b hb, Option.some.injEq, decide_eq_false_iff_not, not_lt]

lemma oneWay (h : RankedBy before? rank xs) : OneWay before? xs := by
  intro a ha b hb hbefore
  have hlt : rank a < rank b := (h.before?_eq_true ha hb).mp hbefore
  exact (h.before?_eq_false hb ha).mpr hlt.le

lemma ascend_iff (h : RankedBy before? rank xs) : RanksAscend rank xs ↔ InOrder before? xs := by
  unfold RanksAscend
  rw [← List.isChain_iff_pairwise]
  constructor
  · intro hchain
    exact hchain.imp_of_mem_imp fun a b ha hb hle => (h.before?_eq_false hb ha).mpr hle
  · intro hchain
    exact hchain.imp_of_mem_imp fun a b ha hb hbefore => (h.before?_eq_false hb ha).mp hbefore

end RankedBy

lemma exists_runFrom? (h : RankedBy before? rank (last :: xs)) (down : Bool) :
    ∃ result, runFrom? before? down last xs = some result := by
  induction xs generalizing last with
  | nil => exact ⟨([], []), rfl⟩
  | cons x rest ih =>
    have hx : before? x last = some (decide (rank x < rank last)) :=
      h x (by simp) last (by simp)
    obtain ⟨⟨more, after⟩, hrun⟩ := ih (h.subset (List.subset_cons_self last (x :: rest)))
    by_cases hdown : decide (rank x < rank last) = down
    · exact ⟨(x :: more, after), by simp [runFrom?, hx, hdown, hrun]⟩
    · exact ⟨([], x :: rest), by simp [runFrom?, hx, hdown]⟩

lemma exists_firstRun? (h : RankedBy before? rank xs) : ∃ result, firstRun? before? xs = some result := by
  match xs, h with
  | [], _ => exact ⟨([], []), rfl⟩
  | [a], _ => exact ⟨([a], []), rfl⟩
  | a :: b :: rest, h =>
    have hb : before? b a = some (decide (rank b < rank a)) := h b (by simp) a (by simp)
    have hrest : RankedBy before? rank (b :: rest) := h.subset (List.subset_cons_self a (b :: rest))
    obtain ⟨⟨more, after⟩, hrun⟩ := exists_runFrom? hrest (decide (rank b < rank a))
    exact ⟨_, by simp only [firstRun?, hb, Option.bind_eq_bind, Option.bind_some, hrun]; rfl⟩

/-- No rank occurs twice where the ranks go down all the time. -/
lemma filter_rank_reverse {r : β} (h : xs.Pairwise fun a b => rank b < rank a) :
    xs.reverse.filter (rank · = r) = xs.filter (rank · = r) := by
  induction xs with
  | nil => rfl
  | cons x rest ih =>
    obtain ⟨hx, hrest⟩ := List.pairwise_cons.mp h
    rw [List.reverse_cons, List.filter_append, ih hrest]
    by_cases hr : rank x = r
    · have hnone : rest.filter (rank · = r) = [] := by
        rw [List.filter_eq_nil_iff]
        intro y hy hry
        have hlt : rank y < rank x := hx y hy
        exact hlt.ne ((of_decide_eq_true hry).trans hr.symm)
      simp [hr, hnone]
    · simp [hr]

lemma filter_firstRun? {r : β} (hranked : RankedBy before? rank xs)
    (h : firstRun? before? xs = some (run, after)) :
    (run ++ after).filter (rank · = r) = xs.filter (rank · = r) := by
  match xs, h with
  | [], h | [_], h =>
    cases h
    rw [List.append_nil]
  | a :: b :: rest, h =>
    obtain ⟨down, hdown, hrest⟩ := Option.bind_eq_some_iff.mp h
    obtain ⟨⟨more, after'⟩, hrun, hpure⟩ := Option.bind_eq_some_iff.mp hrest
    have happend : more ++ after' = rest := append_of_runFrom? hrun
    cases hpure
    cases down with
    | false => simp [happend]
    | true =>
      have hchain : (a :: b :: more).IsChain fun a b => before? b a = some true :=
        List.isChain_cons_cons.mpr ⟨hdown, isChain_of_runFrom? hrun⟩
      have hsub : a :: b :: more ⊆ a :: b :: rest := by
        rw [← happend]
        exact (List.sublist_append_left (a :: b :: more) after).subset
      have hdescend : (a :: b :: more).Pairwise fun a b => rank b < rank a := by
        rw [← List.isChain_iff_pairwise]
        exact hchain.imp_of_mem_imp fun c d hc hd hbefore =>
          (hranked.before?_eq_true (hsub hd) (hsub hc)).mp hbefore
      rw [if_pos rfl, List.filter_append, filter_rank_reverse hdescend, ← List.filter_append,
        ← happend]
      rfl

lemma exists_placeOf? (h : RankedBy before? rank (x :: sorted)) (fuel lo hi : Nat) :
    ∃ n, placeOf? before? x sorted fuel lo hi = some n := by
  induction fuel generalizing lo hi with
  | zero => exact ⟨lo, rfl⟩
  | succ fuel ih =>
    by_cases hlt : lo < hi
    · simp only [placeOf?, if_pos hlt]
      split
      · exact ⟨lo, rfl⟩
      · rename_i y hy
        have hmem : y ∈ sorted := List.mem_of_getElem? hy
        rw [h x List.mem_cons_self y (List.mem_cons_of_mem x hmem)]
        by_cases hbefore : rank x < rank y
        · simpa [hbefore] using ih lo _
        · simpa [hbefore] using ih _ hi
    · exact ⟨lo, by rw [placeOf?, if_neg hlt]⟩

/-- An element is inserted behind the elements that it does not come before. -/
lemma exists_insert? (h : RankedBy before? rank (x :: sorted)) (hsorted : RanksAscend rank sorted) :
    ∃ n, insert? before? sorted x = some (sorted.take n ++ x :: sorted.drop n) ∧
      ∀ y ∈ sorted.drop n, rank x < rank y := by
  obtain ⟨n, hn⟩ := exists_placeOf? h sorted.length 0 sorted.length
  have hfits : Fits before? x sorted n n :=
    fits_of_placeOf? hn (by omega) (Nat.zero_le _) le_rfl ⟨by simp, by simp⟩
  refine ⟨n, by simp [insert?, hn], fun y hy => ?_⟩
  cases hdrop : sorted.drop n with
  | nil => simp [hdrop] at hy
  | cons z rest =>
    have hfirst : z ∈ sorted.drop n := by simp [hdrop]
    have hz : z ∈ sorted := List.mem_of_mem_drop hfirst
    have hxz : rank x < rank z := by
      have hbefore : before? x z = some true := hfits.right z (by simp [hdrop])
      exact (h.before?_eq_true List.mem_cons_self (List.mem_cons_of_mem x hz)).mp hbefore
    have hascend : RanksAscend rank (z :: rest) := hdrop ▸ hsorted.drop
    rw [hdrop] at hy
    rcases List.mem_cons.mp hy with rfl | hy
    · exact hxz
    · exact hxz.trans_le ((List.pairwise_cons.mp hascend).1 y hy)

lemma filter_insert {n : Nat} {r : β} (h : ∀ y ∈ sorted.drop n, rank x < rank y) :
    (sorted.take n ++ x :: sorted.drop n).filter (rank · = r) =
      (sorted ++ [x]).filter (rank · = r) := by
  have hsplit : sorted.filter (rank · = r) =
      (sorted.take n).filter (rank · = r) ++ (sorted.drop n).filter (rank · = r) := by
    rw [← List.filter_append, List.take_append_drop]
  rw [List.filter_append, List.filter_append, hsplit]
  by_cases hr : rank x = r
  · have hnone : (sorted.drop n).filter (rank · = r) = [] := by
      rw [List.filter_eq_nil_iff]
      intro y hy hry
      exact (h y hy).ne (hr.trans (of_decide_eq_true hry).symm)
    simp [hr, hnone]
  · simp [hr]

/-- What sorting by ranks gives. -/
structure StableSort (rank : α → β) (xs ys : List α) : Prop where
  perm : ys.Perm xs
  ascend : RanksAscend rank ys
  stable : ∀ r, ys.filter (rank · = r) = xs.filter (rank · = r)

lemma exists_foldlM_insert? (h : RankedBy before? rank (run ++ after))
    (hrun : RanksAscend rank run) :
    ∃ ys, after.foldlM (insert? before?) run = some ys ∧
      ∀ r, ys.filter (rank · = r) = (run ++ after).filter (rank · = r) := by
  induction after generalizing run with
  | nil => exact ⟨run, rfl, by simp⟩
  | cons x rest ih =>
    have hx : RankedBy before? rank (x :: run) := h.subset (by simp)
    obtain ⟨n, hinsert, hbehind⟩ := exists_insert? hx hrun
    have hperm := perm_of_insert? hinsert
    have hnext : RankedBy before? rank (run.take n ++ x :: run.drop n ++ rest) := by
      refine h.subset fun y hy => ?_
      rcases List.mem_append.mp hy with hy | hy
      · rcases List.mem_cons.mp (hperm.subset hy) with rfl | hy <;> simp [*]
      · simp [hy]
    have hascend : RanksAscend rank (run.take n ++ x :: run.drop n) := by
      have hinserted : RankedBy before? rank (run.take n ++ x :: run.drop n) :=
        hnext.subset (List.subset_append_left _ rest)
      rw [hinserted.ascend_iff]
      exact inOrder_of_insert? hx.oneWay
        ((hx.subset (List.subset_cons_self x run)).ascend_iff.mp hrun) hinsert
    obtain ⟨ys, hys, hfilter⟩ := ih hnext hascend
    refine ⟨ys, by rw [List.foldlM_cons, hinsert]; exact hys, fun r => ?_⟩
    rw [hfilter r, List.filter_append, filter_insert hbehind, ← List.filter_append,
      List.append_assoc, List.singleton_append]

theorem exists_sort? (h : RankedBy before? rank xs) :
    ∃ ys, sort? before? xs = some ys ∧ StableSort rank xs ys := by
  obtain ⟨⟨run, after⟩, hfirst⟩ := exists_firstRun? h
  have hall : RankedBy before? rank (run ++ after) := h.subset (perm_of_firstRun? hfirst).subset
  have hrun : RanksAscend rank run := by
    rw [(hall.subset (List.subset_append_left run after)).ascend_iff]
    exact inOrder_of_firstRun? h.oneWay hfirst
  obtain ⟨ys, hys, hfilter⟩ := exists_foldlM_insert? hall hrun
  have hsort : sort? before? xs = some ys := by
    simp only [sort?, hfirst, Option.bind_eq_bind, Option.bind_some]
    exact hys
  have hperm : ys.Perm xs := perm_of_sort? hsort
  refine ⟨ys, hsort, hperm, ?_, fun r => (hfilter r).trans (filter_firstRun? h hfirst)⟩
  rw [(h.subset hperm.subset).ascend_iff]
  exact inOrder_of_sort? h.oneWay hsort

/-- A list whose ranks never go down is left alone. -/
lemma sort?_of_ascend (h : RankedBy before? rank xs) (hxs : RanksAscend rank xs) :
    sort? before? xs = some xs :=
  sort?_of_inOrder (h.ascend_iff.mp hxs)

end InputGuard

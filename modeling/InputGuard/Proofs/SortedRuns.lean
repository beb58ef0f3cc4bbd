import InputGuard.Value.Sorting
import Mathlib.Data.List.Chain

/-!
# What sorting gives

The list that `sort?` gives has the same elements, and no element in it comes before the one that it
follows. A list that is like that from the start is a single run, so sorting leaves it alone. All
that is needed of the order is that of two elements not both come before the other; some may be
equal, and some may come neither before nor after others without being equal.
-/

namespace InputGuard

variable {α : Type} {before? : α → α → Option Bool} {x last : α} {xs ys run after sorted : List α}

/-- No element comes before the one that it follows. -/
def InOrder (before? : α → α → Option Bool) (xs : List α) : Prop :=
  xs.IsChain fun a b => before? b a = some false

/-- Of any two elements of a list, not both come before the other. -/
def OneWay (before? : α → α → Option Bool) (xs : List α) : Prop :=
  ∀ a ∈ xs, ∀ b ∈ xs, before? a b = some true → before? b a = some false

lemma OneWay.subset (h : OneWay before? ys) (hsub : xs ⊆ ys) : OneWay before? xs :=
  fun a ha b hb => h a (hsub ha) b (hsub hb)

/-- Lists in order stay so when elements are replaced by others that compare alike. -/
lemma InOrder.congr {alike : α → α → Prop}
    (halike : ∀ a a' b b', alike a a' → alike b b' → before? a b = before? a' b')
    (h : List.Forall₂ alike xs ys) (hxs : InOrder before? xs) : InOrder before? ys := by
  induction h with
  | nil => exact List.IsChain.nil
  | cons hab hrest ih =>
    cases hrest with
    | nil => exact List.IsChain.singleton _
    | cons hcd hmore =>
      obtain ⟨hle, htail⟩ := List.isChain_cons_cons.mp hxs
      exact List.isChain_cons_cons.mpr ⟨(halike _ _ _ _ hcd hab).symm.trans hle, ih htail⟩

lemma append_of_runFrom? {down : Bool} {more : List α}
    (h : runFrom? before? down last xs = some (more, after)) : more ++ after = xs := by
  induction xs generalizing last more after with
  | nil =>
    cases h
    rfl
  | cons x rest ih =>
    obtain ⟨b, _, hrest⟩ := Option.bind_eq_some_iff.mp h
    split at hrest
    · obtain ⟨⟨more', after'⟩, hrun, hpure⟩ := Option.bind_eq_some_iff.mp hrest
      cases hpure
      exact congrArg (x :: ·) (ih hrun)
    · cases hrest
      rfl

lemma isChain_of_runFrom? {down : Bool} {more : List α}
    (h : runFrom? before? down last xs = some (more, after)) :
    (last :: more).IsChain fun a b => before? b a = some down := by
  induction xs generalizing last more after with
  | nil =>
    cases h
    exact List.IsChain.singleton _
  | cons x rest ih =>
    obtain ⟨b, hb, hrest⟩ := Option.bind_eq_some_iff.mp h
    split at hrest
    · rename_i heq
      obtain ⟨⟨more', after'⟩, hrun, hpure⟩ := Option.bind_eq_some_iff.mp hrest
      cases hpure
      exact List.isChain_cons_cons.mpr ⟨heq ▸ hb, ih hrun⟩
    · cases hrest
      exact List.IsChain.singleton _

lemma perm_of_firstRun? (h : firstRun? before? xs = some (run, after)) :
    (run ++ after).Perm xs := by
  unfold firstRun? at h
  split at h
  · obtain ⟨down, _, hrest⟩ := Option.bind_eq_some_iff.mp h
    obtain ⟨⟨more, after'⟩, hrun, hpure⟩ := Option.bind_eq_some_iff.mp hrest
    cases hpure
    rw [← append_of_runFrom? hrun]
    split
    · exact (List.reverse_perm _).append_right _
    · exact List.Perm.refl _
  · cases h
    rw [List.append_nil]

lemma inOrder_of_firstRun? (hone : OneWay before? xs)
    (h : firstRun? before? xs = some (run, after)) : InOrder before? run := by
  have hperm := perm_of_firstRun? h
  match xs, h with
  | [], h =>
    cases h
    exact List.IsChain.nil
  | [a], h =>
    cases h
    exact List.IsChain.singleton a
  | a :: b :: rest, h =>
    obtain ⟨down, hdown, hrest⟩ := Option.bind_eq_some_iff.mp h
    obtain ⟨⟨more, after'⟩, hrun, hpure⟩ := Option.bind_eq_some_iff.mp hrest
    cases hpure
    have hchain : (a :: b :: more).IsChain fun a b => before? b a = some down :=
      List.isChain_cons_cons.mpr ⟨hdown, isChain_of_runFrom? hrun⟩
    cases down with
    | false => exact hchain
    | true =>
      have hsub : a :: b :: more ⊆ a :: b :: rest := fun y hy =>
        hperm.subset (List.mem_append_left _ (List.mem_reverse.mpr hy))
      exact List.isChain_reverse.mpr (hchain.imp_of_mem_imp fun c d hc hd hbefore =>
        hone d (hsub hd) c (hsub hc) hbefore)

/-- The place of an element: the element before it, if there is one, comes not after it, and the
one behind it does. -/
structure Fits (before? : α → α → Option Bool) (x : α) (sorted : List α) (lo hi : Nat) :
    Prop where
  left : ∀ y ∈ (sorted.take lo).getLast?, before? x y = some false
  right : ∀ y ∈ (sorted.drop hi).head?, before? x y = some true

lemma fits_of_placeOf? {fuel lo hi n : Nat} (h : placeOf? before? x sorted fuel lo hi = some n)
    (hfuel : hi ≤ lo + fuel) (hle : lo ≤ hi) (hhi : hi ≤ sorted.length)
    (hfits : Fits before? x sorted lo hi) : Fits before? x sorted n n := by
  induction fuel generalizing lo hi with
  | zero =>
    cases h
    obtain rfl : n = hi := by omega
    exact hfits
  | succ fuel ih =>
    rw [placeOf?] at h
    by_cases hlt : lo < hi
    · have hmid : lo + (hi - lo) / 2 < sorted.length := by omega
      simp only [hlt, if_true, List.getElem?_eq_getElem hmid] at h
      obtain ⟨b, hb, hrest⟩ := Option.bind_eq_some_iff.mp h
      cases b with
      | true =>
        refine ih hrest (by omega) (by omega) (by omega) ⟨hfits.left, ?_⟩
        simpa [List.head?_drop, List.getElem?_eq_getElem hmid] using hb
      | false =>
        refine ih hrest (by omega) (by omega) hhi ⟨?_, hfits.right⟩
        simpa [List.getLast?_take, List.getElem?_eq_getElem hmid] using hb
    · rw [if_neg hlt] at h
      cases h
      obtain rfl : n = hi := by omega
      exact hfits

lemma perm_of_insert? (h : insert? before? sorted x = some ys) : ys.Perm (x :: sorted) := by
  obtain ⟨n, _, hpure⟩ := Option.bind_eq_some_iff.mp h
  cases hpure
  refine List.perm_middle.trans ?_
  rw [List.take_append_drop]

lemma inOrder_of_insert? (hone : OneWay before? (x :: sorted)) (hsorted : InOrder before? sorted)
    (h : insert? before? sorted x = some ys) : InOrder before? ys := by
  obtain ⟨n, hn, hpure⟩ := Option.bind_eq_some_iff.mp h
  cases hpure
  have hfits : Fits before? x sorted n n :=
    fits_of_placeOf? hn (by omega) (Nat.zero_le _) le_rfl ⟨by simp, by simp⟩
  refine List.isChain_append.mpr ⟨hsorted.take n, (hsorted.drop n).cons fun y hy => ?_, ?_⟩
  · have hmem : y ∈ sorted := List.mem_of_mem_drop (List.mem_of_mem_head? hy)
    exact hone x List.mem_cons_self y (List.mem_cons_of_mem _ hmem) (hfits.right y hy)
  · intro y hy z hz
    cases hz
    exact hfits.left y hy

lemma perm_of_foldlM_insert? (h : after.foldlM (insert? before?) run = some ys) :
    ys.Perm (run ++ after) := by
  induction after generalizing run with
  | nil =>
    cases h
    rw [List.append_nil]
  | cons x rest ih =>
    rw [List.foldlM_cons] at h
    obtain ⟨next, hnext, hrest⟩ := Option.bind_eq_some_iff.mp h
    calc ys.Perm (next ++ rest) := ih hrest
      _ |>.Perm (x :: run ++ rest) := (perm_of_insert? hnext).append_right rest
      _ |>.Perm (run ++ x :: rest) := List.perm_middle.symm

lemma inOrder_of_foldlM_insert? (hone : OneWay before? (run ++ after))
    (hrun : InOrder before? run) (h : after.foldlM (insert? before?) run = some ys) :
    InOrder before? ys := by
  induction after generalizing run with
  | nil =>
    cases h
    exact hrun
  | cons x rest ih =>
    rw [List.foldlM_cons] at h
    obtain ⟨next, hnext, hrest⟩ := Option.bind_eq_some_iff.mp h
    have hperm : (next ++ rest).Perm (run ++ x :: rest) :=
      ((perm_of_insert? hnext).append_right rest).trans List.perm_middle.symm
    have hfirst : x :: run ⊆ run ++ x :: rest := by
      intro y hy
      rcases List.mem_cons.mp hy with rfl | hy <;> simp [*]
    exact ih (hone.subset hperm.subset)
      (inOrder_of_insert? (hone.subset hfirst) hrun hnext) hrest

lemma perm_of_sort? (h : sort? before? xs = some ys) : ys.Perm xs := by
  obtain ⟨⟨run, after⟩, hrun, hrest⟩ := Option.bind_eq_some_iff.mp h
  exact (perm_of_foldlM_insert? hrest).trans (perm_of_firstRun? hrun)

lemma inOrder_of_sort? (hone : OneWay before? xs) (h : sort? before? xs = some ys) :
    InOrder before? ys := by
  obtain ⟨⟨run, after⟩, hrun, hrest⟩ := Option.bind_eq_some_iff.mp h
  exact inOrder_of_foldlM_insert? (hone.subset (perm_of_firstRun? hrun).subset)
    (inOrder_of_firstRun? hone hrun) hrest

lemma runFrom?_of_inOrder (h : InOrder before? (last :: xs)) :
    runFrom? before? false last xs = some (xs, []) := by
  induction xs generalizing last with
  | nil => rfl
  | cons x rest ih =>
    obtain ⟨hle, hrest⟩ := List.isChain_cons_cons.mp h
    simp [runFrom?, hle, ih hrest]

/-- A list in order is a single run. -/
lemma sort?_of_inOrder (h : InOrder before? xs) : sort? before? xs = some xs := by
  match xs, h with
  | [], _ | [_], _ => rfl
  | a :: b :: rest, h =>
    obtain ⟨hle, hrest⟩ := List.isChain_cons_cons.mp h
    simp [sort?, firstRun?, hle, runFrom?_of_inOrder hrest]

/-- Sorting leaves a list alone if the elements in every place compare as before. -/
theorem sort?_eq_self {alike : α → α → Prop} (hone : OneWay before? xs)
    (halike : ∀ a a' b b', alike a a' → alike b b' → before? a b = before? a' b')
    (h : sort? before? xs = some ys) (hplaces : List.Forall₂ alike ys xs) : ys = xs := by
  have hxs : InOrder before? xs := (inOrder_of_sort? hone h).congr halike hplaces
  exact Option.some.inj (h.symm.trans (sort?_of_inOrder hxs))

theorem sortDescending?_eq_self {alike : α → α → Prop} (hone : OneWay before? xs)
    (halike : ∀ a a' b b', alike a a' → alike b b' → before? a b = before? a' b')
    (h : sortDescending? before? xs = some ys) (hplaces : List.Forall₂ alike ys xs) : ys = xs := by
  obtain ⟨zs, hzs, rfl⟩ := Option.map_eq_some_iff.mp h
  have hplaces' : List.Forall₂ alike zs xs.reverse := by
    rw [← List.forall₂_reverse_iff]
    simpa using hplaces
  rw [sort?_eq_self (hone.subset (List.reverse_perm xs).subset) halike hzs hplaces',
    List.reverse_reverse]

end InputGuard

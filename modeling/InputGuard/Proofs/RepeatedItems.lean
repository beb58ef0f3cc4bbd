import InputGuard.Proofs.StrictChecks
import Mathlib.Order.Bounds.Basic

/-!
# Repeated items

The rule that the items of a list differ. It compares the items, or what a path leads to in them, and
takes all items in which the path leads to nothing for one. It passes a list on if no two items are
equal in that sense, and else names two positions: the first whose item occurs before, and the first
at which it does.
-/

namespace InputGuard

section Repeats

variable {α β : Type} {r : α → α → Prop} {xs ys : List α} {x : α} {i j : Nat}

/-- The element at position `i` is equal to the one at an earlier position `j`. -/
def RepeatsAt (r : α → α → Prop) (xs : List α) (i j : Nat) : Prop :=
  j < i ∧ ∃ x y, xs[j]? = some x ∧ xs[i]? = some y ∧ r x y

/-- The first position whose element occurs before, and the first position at which it does. -/
structure FirstRepeat (r : α → α → Prop) (xs : List α) (i j : Nat) : Prop where
  least : IsLeast {i | ∃ j, RepeatsAt r xs i j} i
  least_earlier : IsLeast {j | RepeatsAt r xs i j} j

lemma repeatsAt_append (hi : i < xs.length) :
    RepeatsAt r (xs ++ ys) i j ↔ RepeatsAt r xs i j := by
  unfold RepeatsAt
  apply and_congr_right
  intro hj
  rw [List.getElem?_append_left hi, List.getElem?_append_left (hj.trans hi)]

lemma repeatsAt_length :
    RepeatsAt r (xs ++ x :: ys) xs.length j ↔ ∃ y, xs[j]? = some y ∧ r y x := by
  have hx : (xs ++ x :: ys)[xs.length]? = some x := by simp
  unfold RepeatsAt
  rw [hx]
  constructor
  · rintro ⟨hj, y, z, hy, hz, hr⟩
    obtain rfl : x = z := Option.some.inj hz
    rw [List.getElem?_append_left hj] at hy
    exact ⟨y, hy, hr⟩
  · rintro ⟨y, hy, hr⟩
    have hj : j < xs.length := (List.getElem?_eq_some_iff.mp hy).1
    refine ⟨hj, y, x, ?_, rfl, hr⟩
    rw [List.getElem?_append_left hj, hy]

lemma repeatsAt_map {f : β → α} {zs : List β} :
    RepeatsAt r (zs.map f) i j ↔ RepeatsAt (fun y z => r (f y) (f z)) zs i j := by
  unfold RepeatsAt
  simp only [List.getElem?_map, Option.map_eq_some_iff]
  constructor
  · rintro ⟨hj, _, _, ⟨y, hy, rfl⟩, ⟨z, hz, rfl⟩, hr⟩
    exact ⟨hj, y, z, hy, hz, hr⟩
  · rintro ⟨hj, y, z, hy, hz, hr⟩
    exact ⟨hj, _, _, ⟨y, hy, rfl⟩, ⟨z, hz, rfl⟩, hr⟩

lemma FirstRepeat.unique {i' j' : Nat} (h : FirstRepeat r xs i j) (h' : FirstRepeat r xs i' j') :
    i = i' ∧ j = j' := by
  obtain rfl : i = i' := h.least.unique h'.least
  exact ⟨rfl, h.least_earlier.unique h'.least_earlier⟩

lemma FirstRepeat.of_map {f : β → α} {zs : List β} (h : FirstRepeat r (zs.map f) i j) :
    FirstRepeat (fun y z => r (f y) (f z)) zs i j := by
  obtain ⟨hi, hj⟩ := h
  simp only [repeatsAt_map] at hi hj
  exact ⟨hi, hj⟩

/-- No element repeats an earlier one exactly if they are pairwise different. -/
lemma pairwise_iff_not_repeatsAt :
    xs.Pairwise (fun x y => ¬r x y) ↔ ∀ i j, ¬RepeatsAt r xs i j := by
  rw [List.pairwise_iff_getElem]
  constructor
  · rintro h i j ⟨hji, x, y, hx, hy, hr⟩
    obtain ⟨hj, rfl⟩ := List.getElem?_eq_some_iff.mp hx
    obtain ⟨hi, rfl⟩ := List.getElem?_eq_some_iff.mp hy
    exact h j i hj hi hji hr
  · intro h j i hj hi hji hr
    exact h i j ⟨hji, _, _, List.getElem?_eq_getElem hj, List.getElem?_eq_getElem hi, hr⟩

end Repeats

namespace KeyPath

/-- The steps of a path that is written with dots. -/
def steps (text : String) : List String := (splitOnChar '.' text.toList).map String.ofList

/-- Where steps lead in a value: to the value under a key of an object, and to the item at a position
of a list. Positions below zero count from the end. -/
inductive Leads : List String → Value → Value → Prop
  | here (v : Value) : Leads [] v v
  | key {name : String} {rest : List String} {entries : Entries} {v w : Value}
      (hentry : lookup? name entries = some v) (hrest : Leads rest v w) :
      Leads (name :: rest) (.object entries) w
  | position {text : String} {rest : List String} {items : List Value} {i : Int} {n : Nat}
      {v w : Value} (htext : readInteger? text = some i)
      (hplace : (n : Int) = i ∨ i < 0 ∧ (n : Int) = i + items.length)
      (hitem : items[n]? = some v) (hrest : Leads rest v w) :
      Leads (text :: rest) (.list items) w

/-- Whether two items count as the same: a path leads to equal values in them, or in neither of them
to any. -/
def Equates : KeyPath → Value → Value → Prop
  | whole, v, w => v.same w = true
  | path text, v, w =>
    (∃ a b, Leads (steps text) v a ∧ Leads (steps text) w b ∧ a.same b = true) ∨
      (∀ a, ¬Leads (steps text) v a) ∧ ∀ b, ¬Leads (steps text) w b
  | unusable, _, _ => False

/-- What a path leads to in an item. -/
def lead? : KeyPath → Value → Option Value
  | whole, v => some v
  | path text, v => follow? (steps text) v
  | unusable, _ => none

variable {by_ : KeyPath} {v w : Value}

lemma item?_eq_some_iff {items : List Value} {i : Int} :
    item? items i = some v ↔
      ∃ n : Nat, ((n : Int) = i ∨ i < 0 ∧ (n : Int) = i + items.length) ∧ items[n]? = some v := by
  unfold item?
  constructor
  · intro h
    by_cases hi : i < 0
    · simp only [if_pos hi] at h
      split at h
      · cases h
      · exact ⟨(i + items.length).toNat, Or.inr ⟨hi, by omega⟩, h⟩
    · simp only [if_neg hi] at h
      exact ⟨i.toNat, Or.inl (by omega), h⟩
  · rintro ⟨n, rfl | ⟨hi, hn⟩, hitem⟩
    · have hnonneg : ¬(n : Int) < 0 := by omega
      simpa only [if_neg hnonneg, Int.toNat_natCast] using hitem
    · have hnonneg : ¬i + items.length < 0 := by omega
      have hplace : (i + items.length).toNat = n := by omega
      simpa only [if_pos hi, if_neg hnonneg, hplace] using hitem

lemma follow?_eq_some_iff {parts : List String} :
    follow? parts v = some w ↔ Leads parts v w := by
  constructor
  · intro h
    induction parts generalizing v with
    | nil =>
      cases h
      exact .here _
    | cons part rest ih =>
      cases v with
      | object entries =>
        obtain ⟨a, hentry, hrest⟩ := Option.bind_eq_some_iff.mp h
        exact .key hentry (ih hrest)
      | list items =>
        obtain ⟨a, hitem, hrest⟩ := Option.bind_eq_some_iff.mp h
        obtain ⟨i, htext, hi⟩ := Option.bind_eq_some_iff.mp hitem
        obtain ⟨n, hplace, hn⟩ := item?_eq_some_iff.mp hi
        exact .position htext hplace hn (ih hrest)
      | _ => cases h
  · intro h
    induction h with
    | here => rfl
    | key hentry _ ih => rw [follow?, hentry, Option.bind_some, ih]
    | position htext hplace hitem _ ih =>
      have hi := item?_eq_some_iff.mpr ⟨_, hplace, hitem⟩
      rw [follow?, htext, Option.bind_some, hi, Option.bind_some, ih]

lemma reach_eq (hby : by_ ≠ unusable) (v : Value) : by_.reach v = .ok (by_.lead? v) := by
  cases by_ with
  | whole | path => rfl
  | unusable => exact absurd rfl hby

lemma mapM_reach_eq (hby : by_ ≠ unusable) (items : List Value) :
    items.mapM by_.reach = .ok (items.map by_.lead?) := by
  rw [mapM_eq_ok, List.forall₂_map_right_iff, List.forall₂_same]
  exact fun v _ => reach_eq hby v

lemma sameKey_lead? (hby : by_ ≠ unusable) :
    ArrayRule.sameKey (by_.lead? v) (by_.lead? w) = true ↔ by_.Equates v w := by
  cases by_ with
  | whole => rfl
  | path text =>
    unfold Equates lead?
    simp only [← follow?_eq_some_iff]
    cases follow? (steps text) v <;> cases follow? (steps text) w <;>
      simp [ArrayRule.sameKey]
  | unusable => exact absurd rfl hby

instance (by_ : KeyPath) (v w : Value) : Decidable (by_.Equates v w) :=
  if hby : by_ = unusable then .isFalse fun h => by rwa [hby] at h
  else decidable_of_iff _ (sameKey_lead? hby)

end KeyPath

namespace ArrayRule

variable {seen keys : List (Option Value)} {key : Option Value} {i j : Nat}

/-- One step of the search: a key that none of those before it is equal to starts no repetition. -/
lemma not_repeatsAt_append_singleton
    (hseen : ∀ i j, ¬RepeatsAt (sameKey · · = true) seen i j)
    (hkey : seen.findIdx? (sameKey · key) = none) (i j : Nat) :
    ¬RepeatsAt (sameKey · · = true) (seen ++ [key]) i j := by
  intro h
  have hi : i < (seen ++ [key]).length := by
    obtain ⟨_, _, _, _, hy, _⟩ := h
    exact (List.getElem?_eq_some_iff.mp hy).1
  rw [List.length_append, List.length_singleton] at hi
  by_cases hlast : i = seen.length
  · subst hlast
    obtain ⟨y, hy, hsame⟩ := repeatsAt_length.mp h
    have hne := List.findIdx?_eq_none_iff.mp hkey y (List.mem_of_getElem? hy)
    exact Bool.noConfusion (hsame.symm.trans hne)
  · have hlt : i < seen.length := by omega
    exact hseen i j ((repeatsAt_append hlt).mp h)

/-- The search ends without a find only if nothing occurs twice. -/
lemma not_repeatsAt_of_firstDuplicate?
    (hseen : ∀ i j, ¬RepeatsAt (sameKey · · = true) seen i j)
    (h : firstDuplicate? seen keys = none) :
    ∀ i j, ¬RepeatsAt (sameKey · · = true) (seen ++ keys) i j := by
  induction keys generalizing seen with
  | nil => rwa [List.append_nil]
  | cons key rest ih =>
    rw [firstDuplicate?] at h
    split at h
    · cases h
    · rename_i hkey
      rw [List.append_cons]
      exact ih (not_repeatsAt_append_singleton hseen hkey) h

lemma firstRepeat_of_firstDuplicate?
    (hseen : ∀ i j, ¬RepeatsAt (sameKey · · = true) seen i j)
    (h : firstDuplicate? seen keys = some (i, j)) :
    FirstRepeat (sameKey · · = true) (seen ++ keys) i j := by
  induction keys generalizing seen with
  | nil => cases h
  | cons key rest ih =>
    rw [firstDuplicate?] at h
    split at h
    · rename_i hkey
      cases h
      obtain ⟨hj, hsame, hleast⟩ := List.findIdx?_eq_some_iff_getElem.mp hkey
      have hrepeats : RepeatsAt (sameKey · · = true) (seen ++ key :: rest) seen.length j :=
        repeatsAt_length.mpr ⟨seen[j], List.getElem?_eq_getElem hj, hsame⟩
      refine ⟨⟨⟨j, hrepeats⟩, ?_⟩, hrepeats, ?_⟩
      · rintro i' ⟨j', hrepeats'⟩
        apply le_of_not_gt
        intro hlt
        exact hseen i' j' ((repeatsAt_append hlt).mp hrepeats')
      · intro j' hrepeats'
        obtain ⟨y, hy, hsame'⟩ := repeatsAt_length.mp hrepeats'
        apply le_of_not_gt
        intro hlt
        obtain ⟨_, rfl⟩ := List.getElem?_eq_some_iff.mp hy
        exact hleast j' hlt hsame'
    · rename_i hkey
      rw [List.append_cons]
      exact ih (not_repeatsAt_append_singleton hseen hkey) h

/-- The context of the issue that an item occurs again. -/
def repeatParticulars (by_ : KeyPath) (i j : Nat) (other : Value) : Entries :=
  [("pos", .int i), ("dupe_pos", .int j), ("dupe_value", other)] ++
    match by_ with
    | .path text => [("path", .str text)]
    | _ => []

section

variable {by_ : KeyPath} {items : List Value} {item other : Value}

lemma check_unique_of_distinct (hby : by_ ≠ .unusable)
    (hfirst : firstDuplicate? [] (items.map by_.lead?) = none) (visit : Visit) :
    (unique by_).check visit items = .ok items := by
  simp only [check, checkUnique, KeyPath.mapM_reach_eq hby, orFault, bind, Except.bind, hfirst]
  rfl

lemma check_unique_of_repeat (hby : by_ ≠ .unusable)
    (hfirst : firstDuplicate? [] (items.map by_.lead?) = some (i, j))
    (hitem : items[i]? = some item) (hother : items[j]? = some other) (visit : Visit) :
    (unique by_).check visit items =
      (visit.down (.index i)).refuse .arrayUnique item (repeatParticulars by_ i j other) := by
  simp only [check, checkUnique, KeyPath.mapM_reach_eq hby, orFault, bind, Except.bind, hfirst,
    hitem, hother, Option.getD_some]
  cases by_ <;> rfl

end

/-- Labels of which the second and the last have no first tag and the others have equal ones. -/
def labels : List Value := [
  .object [("tags", .list [.int 1])],
  .object [("name", .str "red")],
  .object [("tags", .list [.bool true, .str "red"])],
  .object [("tags", .list [])]]

end ArrayRule

end InputGuard

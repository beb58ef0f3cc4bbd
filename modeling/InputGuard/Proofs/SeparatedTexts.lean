import InputGuard.Text.Basic
import Mathlib.Data.List.TakeWhile
import Mathlib.Tactic.Common

/-!
# Texts around separators

A text without a separator is its own first part, and otherwise the separator that comes first parts
it. Trimming ends with texts that have nothing left to trim.
-/

namespace InputGuard

section Separators

variable {sep : Char} {s front front' rest rest' : List Char}

/-- Where the separator does not occur, nothing stops at it. -/
lemma bne_of_notMem (h : sep ∉ s) : ∀ c ∈ s, (c != sep) = true := by
  intro c hc
  rw [bne_iff_ne]
  rintro rfl
  exact h hc

lemma partitionOnChar_of_notMem (h : sep ∉ s) : partitionOnChar sep s = (s, none) := by
  unfold partitionOnChar
  rw [List.dropWhile_eq_nil_iff.mpr (bne_of_notMem h)]

lemma partitionOnChar_append (h : sep ∉ front) (rest : List Char) :
    partitionOnChar sep (front ++ sep :: rest) = (front, some rest) := by
  have hsep : ¬(sep != sep) = true := by simp
  have hdrop : (front ++ sep :: rest).dropWhile (· != sep) = sep :: rest := by
    rw [List.dropWhile_append_of_pos (bne_of_notMem h)]
    exact List.dropWhile_cons_of_neg hsep
  have htake : (front ++ sep :: rest).takeWhile (· != sep) = front := by
    rw [List.takeWhile_append_of_pos (bne_of_notMem h), List.append_right_eq_self]
    exact List.takeWhile_cons_of_neg hsep
  unfold partitionOnChar
  rw [hdrop, htake]

/-- The separator that comes first parts a text in one way. -/
lemma append_sep_inj (h : front ++ sep :: rest = front' ++ sep :: rest') (hfront : sep ∉ front)
    (hfront' : sep ∉ front') : front = front' ∧ rest = rest' := by
  have hparts := partitionOnChar_append hfront rest
  rw [h, partitionOnChar_append hfront' rest', Prod.mk.injEq, Option.some.injEq] at hparts
  exact ⟨hparts.1.symm, hparts.2.symm⟩

/-- A separator of one character is found like the character. -/
lemma splitOnText_single (sep : Char) (s : List Char) :
    splitOnText [sep] 0 s = splitOnChar sep s := by
  unfold splitOnChar
  induction s with
  | nil => rfl
  | cons c s ih =>
    rw [splitOnText, splitWhere, ← ih]
    by_cases hc : c = sep
    · subst hc
      simp
    · rw [if_neg (by simp [Ne.symm hc]), if_neg (by simpa using hc)]
      cases splitOnText [sep] 0 s <;> rfl

end Separators

section Trimming

variable {α : Type} {p : α → Bool} {s trail : List α}

/-- Neither the first nor the last element is to be trimmed. -/
structure Trimmed (p : α → Bool) (s : List α) : Prop where
  head : ∀ a ∈ s.head?, p a = false
  last : ∀ a ∈ s.getLast?, p a = false

lemma dropWhile_of_head (h : ∀ a ∈ s.head?, p a = false) : s.dropWhile p = s := by
  cases s with
  | nil => rfl
  | cons a s => exact List.dropWhile_cons_of_neg (by rw [h a rfl]; exact Bool.false_ne_true)

lemma trimmed_trimWhere (p : α → Bool) (s : List α) : Trimmed p (trimWhere p s) := by
  have hhead : ∀ (s : List α), ∀ a ∈ (s.dropWhile p).head?, p a = false := by
    intro s a ha
    have hnot := List.head?_dropWhile_not p s
    rw [ha] at hnot
    exact hnot
  unfold trimWhere
  refine ⟨fun a ha => ?_, fun a ha => ?_⟩
  · obtain ⟨front, hfront⟩ := List.dropWhile_suffix (l := (s.dropWhile p).reverse) p
    rw [List.head?_reverse] at ha
    refine hhead s a ?_
    rw [← List.getLast?_reverse, ← hfront, List.getLast?_append, ha]
    rfl
  · rw [List.getLast?_reverse] at ha
    exact hhead _ a ha

lemma trimWhere_append_trail (h : Trimmed p s) (hne : s ≠ []) (htrail : ∀ a ∈ trail, p a = true) :
    trimWhere p (s ++ trail) = s := by
  obtain ⟨a, s, rfl⟩ := List.exists_cons_of_ne_nil hne
  have hlast : ∀ b ∈ (a :: s).reverse.head?, p b = false := by
    rw [List.head?_reverse]
    exact h.last
  unfold trimWhere
  rw [List.cons_append, dropWhile_of_head (s := a :: (s ++ trail)) h.head, ← List.cons_append,
    List.reverse_append, List.dropWhile_append_of_pos (by simpa using htrail),
    dropWhile_of_head hlast, List.reverse_reverse]

lemma Trimmed.trimWhere_eq (h : Trimmed p s) : trimWhere p s = s := by
  by_cases hs : s = []
  · rw [hs]
    rfl
  · have htrim := trimWhere_append_trail h hs (List.forall_mem_nil (p · = true))
    rwa [List.append_nil] at htrim

lemma trimWhere_trimWhere (p : α → Bool) (s : List α) :
    trimWhere p (trimWhere p s) = trimWhere p s :=
  (trimmed_trimWhere p s).trimWhere_eq

end Trimming

end InputGuard

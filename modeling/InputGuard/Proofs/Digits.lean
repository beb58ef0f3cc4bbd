import InputGuard.Number.Shortest
import InputGuard.Text.Integer
import Mathlib.Tactic.Common
import Mathlib.Tactic.Ring

/-!
# Digits and their values

The value of a list of digits, by its parts, and the digits that a natural is written with.
-/

namespace InputGuard

lemma isDigit_iff {c : Char} : c.isDigit = true ↔ 48 ≤ c.toNat ∧ c.toNat ≤ 57 := by
  unfold Char.isDigit
  rw [Bool.and_eq_true, decide_eq_true_iff, decide_eq_true_iff]
  exact Iff.rfl

lemma decimalValue?_of_isDigit {c : Char} (h : c.isDigit = true) :
    Unicode.decimalValue? c = some (c.toNat - 48) := by
  obtain ⟨hlow, hhigh⟩ := isDigit_iff.mp h
  unfold Unicode.decimalValue? Unicode.decimalZeros
  rw [List.find?_cons_of_pos]
  · rfl
  · rw [Bool.and_eq_true, decide_eq_true_iff, decide_eq_true_iff]
    omega

/-- Digits of the basic Latin block and nothing else. -/
def IsDigits (cs : List Char) : Prop := ∀ c ∈ cs, c.isDigit = true

instance (cs : List Char) : Decidable (IsDigits cs) :=
  decidable_of_iff (cs.all Char.isDigit = true) List.all_eq_true

lemma isDigits_nil : IsDigits [] := List.forall_mem_nil _

lemma isDigits_cons {c : Char} {cs : List Char} :
    IsDigits (c :: cs) ↔ c.isDigit = true ∧ IsDigits cs := List.forall_mem_cons

lemma isDigits_append {front back : List Char} :
    IsDigits (front ++ back) ↔ IsDigits front ∧ IsDigits back := List.forall_mem_append

/-- A text that starts with digits starts with nothing else. -/
lemma head?_ne_of_digits {cs rest : List Char} {c : Char} (hdigits : ∀ d ∈ cs, d.isDigit = true)
    (hne : cs ≠ []) (hc : c.isDigit = false) : (cs ++ rest).head? ≠ some c := by
  obtain ⟨d, more, rfl⟩ := List.exists_cons_of_ne_nil hne
  intro hhead
  have hdigit := hdigits d List.mem_cons_self
  rw [Option.some.inj hhead, hc] at hdigit
  cases hdigit

lemma foldl_digits (digits : List Char) (start : ℕ) :
    digits.foldl (fun n c => 10 * n + (c.toNat - 48)) start =
      start * 10 ^ digits.length + digitsValue digits := by
  induction digits generalizing start with
  | nil => rw [List.length_nil, pow_zero, mul_one]; rfl
  | cons c rest ih =>
    unfold digitsValue
    rw [List.foldl_cons, List.foldl_cons, ih, ih (10 * 0 + (c.toNat - 48)), List.length_cons,
      pow_succ]
    ring

lemma digitsValue_cons (c : Char) (rest : List Char) :
    digitsValue (c :: rest) = (c.toNat - 48) * 10 ^ rest.length + digitsValue rest := by
  rw [← foldl_digits]
  unfold digitsValue
  rw [List.foldl_cons, Nat.mul_zero, Nat.zero_add]

lemma digitsValue_lt {digits : List Char} (h : ∀ c ∈ digits, c.isDigit = true) :
    digitsValue digits < 10 ^ digits.length := by
  induction digits with
  | nil => exact Nat.one_pos
  | cons c rest ih =>
    obtain ⟨hc, hrest⟩ := List.forall_mem_cons.mp h
    have hdigit : c.toNat - 48 ≤ 9 := by
      have hhigh := (isDigit_iff.mp hc).2
      omega
    have hlt := ih hrest
    have hle := Nat.mul_le_mul_right (10 ^ rest.length) hdigit
    rw [digitsValue_cons, List.length_cons, pow_succ]
    omega

lemma digitsValue_append (front back : List Char) :
    digitsValue (front ++ back) = digitsValue front * 10 ^ back.length + digitsValue back := by
  unfold digitsValue
  rw [List.foldl_append]
  exact foldl_digits back _

lemma digitsValue_toDigits (n : ℕ) : digitsValue (Nat.toDigits 10 n) = n :=
  Nat.ofDigitChars_ten_toDigits

lemma digitCount_le_iff {n k : ℕ} (hk : 0 < k) : digitCount n ≤ k ↔ n < tenTo k :=
  Nat.length_toDigits_le_iff (by decide) hk

lemma digitCount_digitsValue_le {digits : List Char} {k : ℕ} (hk : 0 < k) (hdigits : IsDigits digits)
    (h : digits.length ≤ k) : digitCount (digitsValue digits) ≤ k := by
  rw [digitCount_le_iff hk]
  exact (digitsValue_lt hdigits).trans_le (Nat.pow_le_pow_right (by decide) h)

/-- The digits of a number, with zeros before them up to a width. -/
@[irreducible]
def padded (width n : ℕ) : List Char := (padZeros width (natText n)).toList

section Padded

variable {width n : ℕ}

lemma padded_eq (width n : ℕ) : padded width n =
    List.replicate (width - (Nat.toDigits 10 n).length) '0' ++ Nat.toDigits 10 n := by
  unfold padded padZeros natText
  simp

lemma isDigit_padded (width n : ℕ) : ∀ c ∈ padded width n, c.isDigit = true := by
  rw [padded_eq]
  refine List.forall_mem_append.mpr ⟨fun c hc => ?_, fun c hc => ?_⟩
  · rw [List.eq_of_mem_replicate hc]
    rfl
  · exact Nat.isDigit_of_mem_toDigits (by decide) (by decide) hc

lemma length_padded_eq (width n : ℕ) :
    (padded width n).length = max width (Nat.toDigits 10 n).length := by
  rw [padded_eq, List.length_append, List.length_replicate]
  omega

lemma length_padded (hwidth : 0 < width) (h : n < 10 ^ width) :
    (padded width n).length = width := by
  rw [length_padded_eq]
  exact Nat.max_eq_left ((Nat.length_toDigits_le_iff (by decide) hwidth).mpr h)

lemma digitsValue_padded (width n : ℕ) : digitsValue (padded width n) = n := by
  have hzeros : ∀ k, digitsValue (List.replicate k '0') = 0 := by
    intro k
    induction k with
    | zero => rfl
    | succ k ih =>
      have hzero : '0'.toNat - 48 = 0 := rfl
      rw [List.replicate_succ, digitsValue_cons, ih, hzero, zero_mul]
  rw [padded_eq, digitsValue_append, hzeros, zero_mul, zero_add, digitsValue_toDigits]

end Padded

end InputGuard

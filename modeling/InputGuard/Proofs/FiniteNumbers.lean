import InputGuard.Proofs.BinaryIntegers
import InputGuard.Proofs.StrictChecks
import InputGuard.Schema.Validate
import Mathlib.Data.Nat.Cast.Order.Field

/-!
# Numbers that are passed on

A number that is taken for one is within the bounds of the number line, and the rules either pass it
on or round it to some decimal places, which does not lead out of the range of binary numbers. What
is read from a text can be written again.
-/

namespace InputGuard

open Binary64

/-- There is room between the greatest binary number and the bound of the range. -/
lemma FiniteBinary.magnitude_add_one_le (x : FiniteBinary) : x.magnitude + 1 ≤ leastInfinite := by
  obtain ⟨power, hpower⟩ : ∃ power, power = twoTo 971 := ⟨_, rfl⟩
  have hmantissa : (x.mantissa : ℚ) ≤ (twoTo 53 - 1 : ℕ) :=
    Nat.cast_le.mpr (Nat.le_sub_one_of_lt x.normal.1)
  have hexponent : (2 : ℚ) ^ x.exponent ≤ power := by
    rw [hpower, twoTo_cast]
    exact two_zpow_le x.normal.2.2.1
  have hroom : (twoTo 53 - 1) * power + 1 ≤ leastInfinite := by
    rw [hpower]
    decide +kernel
  calc x.magnitude + 1 ≤ (twoTo 53 - 1 : ℕ) * (power : ℚ) + 1 :=
        add_le_add_left (mul_le_mul hmantissa hexponent (two_zpow_pos _).le (Nat.cast_nonneg _)) 1
    _ = ((twoTo 53 - 1) * power + 1 : ℕ) := by rw [Nat.cast_succ, Nat.cast_mul]
    _ ≤ leastInfinite := Nat.cast_le.mpr hroom

namespace Binary64

/-- Below the bound of the range there are four hundred digits before the point at most. -/
lemma digitCount_le {n : ℕ} (places : ℕ) (h : n < leastInfinite * tenTo places) :
    digitCount n ≤ 400 + places := by
  obtain ⟨k, hk, hbound⟩ : ∃ k, k = 400 ∧ leastInfinite ≤ tenTo k :=
    ⟨400, rfl, by decide +kernel⟩
  rw [← hk, digitCount_le_iff (by omega)]
  calc n < leastInfinite * tenTo places := h
    _ ≤ tenTo k * tenTo places := Nat.mul_le_mul_right _ hbound
    _ = tenTo (k + places) := (Nat.pow_add 10 k places).symm

/-- A decimal below the bound of the range has a nearest binary number. -/
lemma exists_ofDecimal (negative : Bool) {n places : ℕ} (h : n < leastInfinite * tenTo places) :
    ∃ x, ofDecimal negative n (-places) = .finite x := by
  have hcount := digitCount_le places h
  unfold ofDecimal
  by_cases hn : n = 0
  · rw [if_pos hn]
    exact ⟨_, rfl⟩
  dsimp only
  rw [if_neg hn, if_neg (by omega)]
  split
  · exact ⟨_, rfl⟩
  · rcases Nat.eq_zero_or_pos places with rfl | hplaces
    · rw [if_pos (by decide), exists_ofRatio_iff negative Nat.one_pos]
      have hone : tenTo 0 = 1 := rfl
      rw [hone, Nat.mul_one] at h
      rwa [Int.natCast_zero, neg_zero, Int.toNat_zero, hone, Nat.mul_one, Nat.mul_one]
    · have hpos : 0 < tenTo places := Nat.pow_pos (by decide)
      rw [if_neg (by omega), neg_neg, Int.toNat_natCast, exists_ofRatio_iff negative hpos]
      exact h

end Binary64

namespace Number

variable {x y : Number}

lemma isFinite_roundTo (n : ℕ) (h : x.isFinite = true) : (x.roundTo n).isFinite = true := by
  match x with
  | int m => rfl
  | float .nan | float (.infinite _) => cases h
  | float (.finite b) =>
    have hround : roundQuotient (b.ratio.1 * tenTo n) b.ratio.2 < leastInfinite * tenTo n := by
      have herror := roundQuotient_error (n := b.ratio.1 * tenTo n) b.ratio_pos
      have hquotient : ((b.ratio.1 * tenTo n : ℕ) : ℚ) / b.ratio.2 = b.magnitude * tenTo n := by
        rw [Nat.cast_mul, b.magnitude_eq, div_mul_eq_mul_div]
      have hone : (1 : ℚ) ≤ (tenTo n : ℕ) := Nat.one_le_cast.mpr (Nat.pow_pos (by decide))
      have hscaled := mul_le_mul_of_nonneg_right b.magnitude_add_one_le (zero_le_one.trans hone)
      rw [hquotient] at herror
      rw [add_mul, one_mul] at hscaled
      have hbelow := (abs_le.mp herror).2
      have hlt : (roundQuotient (b.ratio.1 * tenTo n) b.ratio.2 : ℚ) <
          leastInfinite * (tenTo n : ℕ) := by
        linarith
      exact_mod_cast hlt
    obtain ⟨z, hz⟩ := exists_ofDecimal b.negative hround
    change (float (ofDecimal b.negative (roundQuotient (b.ratio.1 * tenTo n) b.ratio.2)
      (-n))).isFinite = true
    rw [hz]
    rfl

lemma hasText_roundTo (n : ℕ) (h : x.hasText = true) : (x.roundTo n).hasText = true := by
  match x with
  | int m => exact h
  | float .nan | float (.infinite _) | float (.finite b) => rfl

/-- A number that is within bounds is taken as it is. -/
lemma require_cases {visit : Visit} {anySize : Bool} (h : x.require visit anySize = .ok y) :
    y = x ∧ x.isFinite = true := by
  have hrest : ∀ z : Number, z.isFinite = true →
      (if anySize || z.abs.le (int greatestExact) then .ok z
        else visit.refuse .numberUnsafe (.number z) [] : Checked Number) = .ok y →
      y = z ∧ z.isFinite = true := by
    intro z hz hy
    split at hy
    · exact ⟨(Except.ok.inj hy).symm, hz⟩
    · cases hy
  match x with
  | float .nan | float (.infinite _) => cases h
  | int _ | float (.finite _) => exact hrest _ rfl h

/-- Far beyond the range of binary numbers, integers can still be written. -/
lemma hasText_int {n : ℤ} (places : ℕ) (hplaces : places ≤ 3900)
    (h : n.natAbs < leastInfinite * tenTo places) : (int n).hasText = true := by
  have hcount := digitCount_le places h
  have hlimit : integerDigitLimit = 4300 := rfl
  exact decide_eq_true (by omega)

/-- A binary number that is an integer has fewer digits than can be read. -/
lemma hasText_truncate (b : FiniteBinary) : (int b.truncate).hasText = true := by
  have habs : b.truncate.natAbs = b.ratio.1 / b.ratio.2 := by
    rw [b.truncate_eq]
    split
    · rw [Int.natAbs_neg, Int.natAbs_natCast]
    · rw [Int.natAbs_natCast]
  have hlt : b.ratio.1 / b.ratio.2 < leastInfinite := by
    have hdiv : ((b.ratio.1 / b.ratio.2 : ℕ) : ℚ) ≤ b.magnitude :=
      b.magnitude_eq ▸ Nat.cast_div_le
    have hbound := b.magnitude_add_one_le
    have hlt : ((b.ratio.1 / b.ratio.2 : ℕ) : ℚ) < leastInfinite := by linarith
    exact_mod_cast hlt
  have hone : tenTo 0 = 1 := rfl
  exact hasText_int 0 (Nat.zero_le _) (by rwa [habs, hone, Nat.mul_one])

lemma hasText_ofText {visit : Visit} {s : String} (h : ofText visit s = .ok x) :
    x.hasText = true := by
  unfold ofText at h
  split at h
  · cases h
  · cases h
  · cases h
    rfl
  · cases h
    rfl
  · split at h
    · obtain rfl := Except.ok.inj h
      split
      · exact hasText_truncate _
      · rfl
    · cases h
      rfl

end Number

namespace Value

variable {visit : Visit} {anySize : Bool} {v : Value} {x : Number}

/-- What a value is taken for is the number itself, or one that its text denotes. -/
lemma toNumber_cases (h : v.toNumber visit anySize = .ok x) :
    x.isFinite = true ∧ (v = .number x ∨ ∃ s, v = .str s ∧ Number.ofText visit s = .ok x) := by
  unfold toNumber at h
  split at h
  · obtain ⟨rfl, hfinite⟩ := Number.require_cases h
    exact ⟨hfinite, Or.inl rfl⟩
  · split at h
    · obtain ⟨y, hy, hrequire⟩ := bind_eq_ok.mp h
      obtain ⟨rfl, hfinite⟩ := Number.require_cases hrequire
      exact ⟨hfinite, Or.inr ⟨_, rfl, hy⟩⟩
    · cases h
  · cases h

lemma hasText_toNumber (hv : v.hasText = true) (h : v.toNumber visit anySize = .ok x) :
    x.hasText = true := by
  obtain ⟨-, rfl | ⟨s, rfl, hs⟩⟩ := toNumber_cases h
  · exact hv
  · exact Number.hasText_ofText hs

end Value

namespace NumberRule

variable {visit : Visit} {rule : NumberRule} {x y : Number}

/-- A rule passes a number on or rounds it. -/
lemma check_cases (h : rule.check visit x = .ok y) : y = x ∨ ∃ n, y = x.roundTo n := by
  cases rule with
  | bound | integer | port => exact Or.inl (require_eq h)
  | sign s => cases s <;> exact Or.inl (require_eq h)
  | multiple base =>
    obtain ⟨_, _, hrequire⟩ := bind_eq_ok.mp h
    exact Or.inl (require_eq hrequire)
  | precision limit =>
    simp only [check, checkPrecision] at h
    split at h
    · cases h
    · split at h
      · exact Or.inl (Except.ok.inj h).symm
      · split at h
        · exact Or.inr ⟨limit, (Except.ok.inj h).symm⟩
        · cases h

lemma isFinite_check (hx : x.isFinite = true) (h : rule.check visit x = .ok y) :
    y.isFinite = true := by
  rcases check_cases h with rfl | ⟨n, rfl⟩
  · exact hx
  · exact x.isFinite_roundTo n hx

lemma hasText_check (hx : x.hasText = true) (h : rule.check visit x = .ok y) :
    y.hasText = true := by
  rcases check_cases h with rfl | ⟨n, rfl⟩
  · exact hx
  · exact x.hasText_roundTo n hx

end NumberRule

end InputGuard

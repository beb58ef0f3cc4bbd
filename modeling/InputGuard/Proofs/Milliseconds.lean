import InputGuard.Proofs.BinaryIntegers
import InputGuard.Schema.DateRule
import Mathlib.Data.Nat.Digits.Defs

/-!
# Whole milliseconds

A number of milliseconds goes through two roundings before it is a moment: to the binary number
nearest to a thousandth of it, and to whole microseconds. Less than `2 ^ 33` seconds, some two
hundred and seventy years, from the first midnight of 1970 the error of the first is less than half
a microsecond, so that the moment is exact.
-/

namespace InputGuard

/-- The natural nearest to the absolute value of a finite number. -/
def Binary64.nearestNat : Binary64 → ℕ
  | .finite f => roundQuotient f.ratio.1 f.ratio.2
  | _ => 0

lemma Binary64.nearestNat_error (f : FiniteBinary) :
    |((Binary64.finite f).nearestNat : ℚ) - f.magnitude| ≤ 1 / 2 := by
  rw [f.magnitude_eq]
  exact roundQuotient_error f.ratio_pos

namespace FiniteBinary

/-- The rational that a finite number is. -/
def value (x : FiniteBinary) : ℚ := if x.negative then -x.magnitude else x.magnitude

/-- The microseconds of the fraction of a number of seconds, without the sign. -/
def fractionMicros (x : FiniteBinary) : ℕ :=
  (Binary64.ofRatio false (x.ratio.1 % x.ratio.2 * microsPerSecond) x.ratio.2).nearestNat

variable (x : FiniteBinary)

lemma magnitude_split : x.magnitude =
    (x.ratio.1 / x.ratio.2 : ℕ) + ((x.ratio.1 % x.ratio.2 : ℕ) : ℚ) / x.ratio.2 := by
  have hpos : (0 : ℚ) < x.ratio.2 := Nat.cast_pos.mpr x.ratio_pos
  have hsplit : ((x.ratio.2 * (x.ratio.1 / x.ratio.2) + x.ratio.1 % x.ratio.2 : ℕ) : ℚ) =
      x.ratio.1 := congrArg Nat.cast (Nat.div_add_mod x.ratio.1 x.ratio.2)
  rw [x.magnitude_eq, ← hsplit]
  push_cast
  field_simp

lemma fractionMicros_error :
    |(x.fractionMicros : ℚ) - ((x.ratio.1 % x.ratio.2 : ℕ) : ℚ) / x.ratio.2 * 1000000| ≤
      1 / 2 + 2 ^ (-34 : ℤ) := by
  have hpos : (0 : ℚ) < x.ratio.2 := Nat.cast_pos.mpr x.ratio_pos
  have hfraction : ((x.ratio.1 % x.ratio.2 : ℕ) : ℚ) < x.ratio.2 :=
    Nat.cast_lt.mpr (Nat.mod_lt _ x.ratio_pos)
  have hcast : ((x.ratio.1 % x.ratio.2 * microsPerSecond : ℕ) : ℚ) / x.ratio.2 =
      ((x.ratio.1 % x.ratio.2 : ℕ) : ℚ) / x.ratio.2 * 1000000 := by
    rw [Nat.cast_mul, microsPerSecond]
    push_cast
    ring
  have hlt : ((x.ratio.1 % x.ratio.2 * microsPerSecond : ℕ) : ℚ) / x.ratio.2 < 2 ^ 20 := by
    rw [hcast]
    have hone : ((x.ratio.1 % x.ratio.2 : ℕ) : ℚ) / x.ratio.2 < 1 := (div_lt_one hpos).mpr hfraction
    linarith
  obtain ⟨f, hf, -, herror⟩ := Binary64.exists_ofRatio false x.ratio_pos 20 (by decide) hlt
  have hround := Binary64.nearestNat_error f
  have hexp : ((20 : ℕ) : ℤ) - 54 = -34 := rfl
  rw [hcast, hexp] at herror
  rw [fractionMicros, hf]
  rw [abs_le] at *
  constructor <;> linarith

lemma fractionMicros_le : x.fractionMicros ≤ microsPerSecond := by
  have hpos : (0 : ℚ) < x.ratio.2 := Nat.cast_pos.mpr x.ratio_pos
  have hfraction : ((x.ratio.1 % x.ratio.2 : ℕ) : ℚ) / x.ratio.2 < 1 :=
    (div_lt_one hpos).mpr (Nat.cast_lt.mpr (Nat.mod_lt _ x.ratio_pos))
  have herror := (abs_le.mp x.fractionMicros_error).2
  have hpow : (2 : ℚ) ^ (-34 : ℤ) < 1 / 2 := by norm_num
  have hlt : (x.fractionMicros : ℚ) < (microsPerSecond + 1 : ℕ) := by
    rw [microsPerSecond]
    push_cast
    linarith
  exact Nat.lt_succ_iff.mp (Nat.cast_lt.mp hlt)

/-- What the fraction has beyond whole microseconds is carried into the seconds. -/
lemma toMicros_eq : x.toMicros =
    if x.negative then
      if x.fractionMicros = 0 then (x.truncate, 0)
      else (x.truncate - 1, microsPerSecond - x.fractionMicros)
    else if x.fractionMicros < microsPerSecond then (x.truncate, x.fractionMicros)
    else (x.truncate + 1, 0) := by
  -- with its value, the factor would be multiplied out
  unfold toMicros fractionMicros
  generalize microsPerSecond = factor
  obtain ⟨n, d⟩ := x.ratio
  dsimp only
  cases Binary64.ofRatio false (n % d * factor) d <;> rfl

/-- A number of seconds in whole microseconds. -/
def wholeMicros : ℤ := x.toMicros.1 * microsPerSecond + x.toMicros.2

lemma wholeMicros_eq : x.wholeMicros =
    if x.negative then
      -(((x.ratio.1 / x.ratio.2 * microsPerSecond + x.fractionMicros : ℕ)) : ℤ)
    else ((x.ratio.1 / x.ratio.2 * microsPerSecond + x.fractionMicros : ℕ) : ℤ) := by
  have hle := x.fractionMicros_le
  rw [wholeMicros, toMicros_eq, truncate_eq]
  generalize x.fractionMicros = micros at hle ⊢
  generalize x.ratio.1 / x.ratio.2 = seconds
  rw [microsPerSecond] at *
  split_ifs <;> dsimp only <;> omega

/-- They are the nearest ones, but for the rounding of the fraction. -/
theorem wholeMicros_error :
    |(x.wholeMicros : ℚ) - x.value * 1000000| ≤ 1 / 2 + 2 ^ (-34 : ℤ) := by
  have herror := x.fractionMicros_error
  rw [wholeMicros_eq, value, magnitude_split]
  generalize x.ratio.1 / x.ratio.2 = seconds
  generalize ((x.ratio.1 % x.ratio.2 : ℕ) : ℚ) / x.ratio.2 = fraction at herror ⊢
  have hpositive : (((seconds * microsPerSecond + x.fractionMicros : ℕ) : ℤ) : ℚ) -
      (seconds + fraction) * 1000000 = x.fractionMicros - fraction * 1000000 := by
    rw [microsPerSecond]
    push_cast
    ring
  split_ifs
  · rwa [Int.cast_neg, neg_mul, ← neg_sub', abs_neg, hpositive]
  · rwa [hpositive]

/-- Microseconds that are close enough to an integer are that integer. -/
lemma wholeMicros_eq_of_near {n : ℤ} (h : |x.value * 1000000 - n| < 1 / 2 - 2 ^ (-34 : ℤ)) :
    x.wholeMicros = n := by
  have hmicros := x.wholeMicros_error
  have hlt : |(x.wholeMicros : ℚ) - n| < 1 := by
    have hsum := abs_sub_le (x.wholeMicros : ℚ) (x.value * 1000000) n
    linarith
  rw [← Int.cast_sub, ← Int.cast_abs] at hlt
  exact sub_eq_zero.mp (Int.abs_lt_one_iff.mp (by exact_mod_cast hlt))

end FiniteBinary

lemma Moment.ofTimestamp?_finite (x : FiniteBinary) : ofTimestamp? (.float (.finite x)) =
    ofClock? (epochSeconds * microsPerSecond + x.wholeMicros) (some 0) := by
  unfold ofTimestamp? ofSeconds? FiniteBinary.wholeMicros
  dsimp only
  generalize microsPerSecond = factor
  generalize x.toMicros = parts
  obtain ⟨seconds, micros⟩ := parts
  dsimp only
  rw [add_mul, add_assoc]

namespace FiniteBinary

variable {x : FiniteBinary}

lemma magnitude_nonneg (x : FiniteBinary) : 0 ≤ x.magnitude :=
  mul_nonneg (Nat.cast_nonneg _) (two_zpow_pos _).le

lemma abs_value (x : FiniteBinary) : |x.value| = x.magnitude := by
  unfold value
  split
  · rw [abs_neg, abs_of_nonneg x.magnitude_nonneg]
  · rw [abs_of_nonneg x.magnitude_nonneg]

/-- Numbers of one sign are as far apart as their absolute values. -/
lemma abs_value_sub {q : ℚ} (hq : x.negative = decide (q < 0)) :
    |x.value - q| = |x.magnitude - (|q|)| := by
  unfold value
  by_cases hneg : q < 0
  · rw [hq, decide_eq_true hneg, if_pos rfl, abs_of_neg hneg, ← abs_neg, neg_sub, sub_neg_eq_add,
      sub_neg_eq_add, add_comm]
  · rw [hq, decide_eq_false hneg, if_neg Bool.false_ne_true, abs_of_nonneg (not_lt.mp hneg)]

lemma value_eq_intCast {t : ℤ} (hsign : x.negative = decide (t < 0))
    (hmagnitude : x.magnitude = t.natAbs) : x.value = t := by
  have hsign' : x.negative = decide ((t : ℚ) < 0) := by
    rw [hsign, decide_eq_decide, Int.cast_lt_zero]
  have hdistance := abs_value_sub hsign'
  rw [hmagnitude, Nat.cast_natAbs, Int.cast_abs, sub_self, abs_zero] at hdistance
  exact sub_eq_zero.mp (abs_eq_zero.mp hdistance)

end FiniteBinary

/-- The binary number that is taken for a thousandth of an integer. -/
lemma exists_thousandth (t : ℤ) {k : ℕ} (hk : k ≤ 1023) (hlt : t.natAbs < 2 ^ k * 1000) :
    ∃ y : FiniteBinary, (Number.int t).thousandth? = some (.finite y) ∧
      |y.value - t / 1000| ≤ 2 ^ ((k : ℤ) - 54) ∧
      ∀ z : FiniteBinary, |y.value - t / 1000| ≤ |z.value - t / 1000| := by
  have habs : |(t : ℚ) / 1000| = t.natAbs / (1000 : ℕ) := by
    rw [abs_div, Nat.cast_natAbs, Int.cast_abs]
    norm_num
  have hquotient : (t.natAbs : ℚ) / (1000 : ℕ) < 2 ^ k := by
    rw [div_lt_iff₀ (by norm_num)]
    exact_mod_cast hlt
  obtain ⟨y, hy, hsign, herror⟩ :=
    Binary64.exists_ofRatio (decide (t < 0)) (by decide) k hk hquotient
  have hsign' : y.negative = decide ((t : ℚ) / 1000 < 0) := by
    rw [hsign, decide_eq_decide, div_neg_iff]
    norm_num
  have hvalue := FiniteBinary.abs_value_sub hsign'
  rw [habs] at hvalue
  refine ⟨y, ?_, hvalue.trans_le herror, fun z => ?_⟩
  · unfold Number.thousandth?
    dsimp only
    rw [hy]
  · calc |y.value - t / 1000| = |y.magnitude - t.natAbs / (1000 : ℕ)| := hvalue
      _ ≤ |z.magnitude - t.natAbs / (1000 : ℕ)| := Binary64.ofRatio_nearest (by decide) hy z
      _ = |(|z.value|) - (|(t : ℚ) / 1000|)| := by rw [habs, z.abs_value]
      _ ≤ |z.value - t / 1000| := abs_abs_sub_abs_le _ _

lemma timestampMoment_eq {t : ℤ} {y : FiniteBinary}
    (hy : (Number.int t).thousandth? = some (.finite y)) : timestampMoment .milliseconds (.int t) =
      .ok (Moment.ofClock? (epochSeconds * microsPerSecond + y.wholeMicros) (some 0)) := by
  unfold timestampMoment
  dsimp only
  rw [hy]
  dsimp only
  rw [Moment.ofTimestamp?_finite]

/-- The distance from a thousandth, in seconds and in microseconds. -/
lemma abs_micros_sub (t : ℤ) (y : FiniteBinary) :
    |y.value * 1000000 - (t * 1000 : ℤ)| = |y.value - t / 1000| * 1000000 := by
  have hscale : y.value * 1000000 - (t * 1000 : ℤ) = (y.value - t / 1000) * 1000000 := by
    push_cast
    ring
  rw [hscale, abs_mul, abs_of_pos (by norm_num : (0 : ℚ) < 1000000)]

lemma exists_thousandth_exact {t : ℤ} (ht : t.natAbs < 2 ^ 33 * 1000) :
    ∃ y : FiniteBinary, (Number.int t).thousandth? = some (.finite y) ∧
      |y.value - t / 1000| ≤ 1 / 2000000 ∧ y.wholeMicros = t * 1000 := by
  obtain ⟨y, hy, herror, -⟩ := exists_thousandth t (by decide) ht
  refine ⟨y, hy, herror.trans (by norm_num), y.wholeMicros_eq_of_near ?_⟩
  have hbounds : (2 : ℚ) ^ ((33 : ℕ) - 54 : ℤ) * 1000000 < 1 / 2 - 2 ^ (-34 : ℤ) := by norm_num
  rw [abs_micros_sub]
  exact (mul_le_mul_of_nonneg_right herror (by norm_num)).trans_lt hbounds

/-- Less than `2 ^ 33` seconds from the first midnight of 1970 a timestamp is exact. -/
theorem timestampMoment_exact {t : ℤ} (ht : t.natAbs < 2 ^ 33 * 1000) :
    timestampMoment .milliseconds (.int t) =
      .ok (Moment.ofClock? (epochSeconds * microsPerSecond + t * 1000) (some 0)) := by
  obtain ⟨y, hy, -, hmicros⟩ := exists_thousandth_exact ht
  rw [timestampMoment_eq hy, hmicros]

/-- Below `2 ^ 53` a numeral is as good as the integer that it denotes. -/
lemma thousandth?_ofDecimal {t : ℤ} (ht : t.natAbs < twoTo 53) :
    (Number.float (.ofDecimal (decide (t < 0)) t.natAbs 0)).thousandth? =
      (Number.int t).thousandth? := by
  obtain ⟨x, hx, hsign, hmagnitude⟩ := Binary64.ofDecimal_exact (decide (t < 0)) ht
  obtain ⟨y, hy, -⟩ := exists_thousandth t (k := 53) (by decide)
    (ht.trans_le (Nat.le_mul_of_pos_right _ (by decide)))
  have hratio : x.ratio.1 = t.natAbs * x.ratio.2 := by
    rw [x.magnitude_eq, div_eq_iff (Nat.cast_pos.mpr x.ratio_pos).ne'] at hmagnitude
    exact_mod_cast hmagnitude
  have hsame : Binary64.ofRatio (decide (t < 0)) x.ratio.1 (x.ratio.2 * 1000) =
      Binary64.ofRatio (decide (t < 0)) t.natAbs 1000 := by
    rw [hratio, mul_comm x.ratio.2]
    exact Binary64.ofRatio_mul _ _ (by decide) x.ratio_pos
  rw [hx, hy]
  unfold Number.thousandth? at hy ⊢
  dsimp only at hy ⊢
  rw [hsign, hsame]
  split at hy
  · rename_i z hz
    rw [hz]
    exact hy
  · cases hy

lemma timestampMoment_ofDecimal {t : ℤ} (ht : t.natAbs < twoTo 53) :
    timestampMoment .milliseconds (.float (.ofDecimal (decide (t < 0)) t.natAbs 0)) =
      timestampMoment .milliseconds (.int t) := by
  unfold timestampMoment
  dsimp only
  rw [thousandth?_ofDecimal ht]

end InputGuard

import InputGuard.Proofs.StrictChecks
import InputGuard.Proofs.ValueOrder
import Mathlib.Algebra.Order.Field.Basic
import Mathlib.Algebra.Order.Field.Rat
import Mathlib.Data.Int.Cast.Lemmas

/-!
# Numbers as rationals

Each finite number is a rational, and the tests for whole numbers and for numbers within bounds are
about that rational: there is no rounding in them.
-/

namespace InputGuard

lemma twoTo_dvd_twoTo {m n : Nat} (h : m ≤ n) : twoTo m ∣ twoTo n := Nat.pow_dvd_pow 2 h

namespace FiniteBinary

lemma natAbs_scaled (x : FiniteBinary) :
    x.scaled.natAbs = x.mantissa * twoTo (x.exponent + 1074).toNat := by
  unfold scaled
  dsimp only
  split
  · rw [Int.natAbs_neg, Int.natAbs_natCast]
  · rw [Int.natAbs_natCast]

lemma scaled_abs (x : FiniteBinary) : x.abs.scaled = x.scaled.natAbs := by
  rw [natAbs_scaled]
  rfl

lemma natCast_dvd_scaled (x : FiniteBinary) (k : Nat) :
    (k : Int) ∣ x.scaled ↔ k ∣ x.mantissa * twoTo (x.exponent + 1074).toNat := by
  rw [Int.natCast_dvd, natAbs_scaled]

lemma isInteger_iff (x : FiniteBinary) : x.isInteger = true ↔ unitScale ∣ x.scaled := by
  have hleast : -1074 ≤ x.exponent := x.normal.2.1
  refine Iff.trans ?_ (x.natCast_dvd_scaled (twoTo 1074)).symm
  unfold isInteger ratio
  by_cases he : 0 ≤ x.exponent
  · have hle : 1074 ≤ (x.exponent + 1074).toNat := by omega
    have hdvd : twoTo 1074 ∣ x.mantissa * twoTo (x.exponent + 1074).toNat :=
      (twoTo_dvd_twoTo hle).mul_left x.mantissa
    simp only [if_pos he, Nat.mod_one, beq_self_eq_true, true_iff]
    exact hdvd
  · have hsum : 1074 = (-x.exponent).toNat + (x.exponent + 1074).toNat := by omega
    have hscale : twoTo 1074 = twoTo (-x.exponent).toNat * twoTo (x.exponent + 1074).toNat := by
      conv_lhs => rw [hsum]
      exact Nat.pow_add 2 _ _
    have hpos : 0 < twoTo (x.exponent + 1074).toNat := Nat.pow_pos (by decide)
    rw [hscale, Nat.mul_dvd_mul_iff_right hpos, if_neg he, beq_iff_eq]
    exact Nat.dvd_iff_mod_eq_zero.symm

end FiniteBinary

namespace Number

/-- The rational that a number is; none for what is no number or beyond all of them. -/
def rational? (x : Number) : Option ℚ :=
  match x.place? with
  | some (.point scaled) => some (scaled / unitScale)
  | _ => none

variable {x : Number} {q : ℚ}

lemma unitScale_cast_pos : (0 : ℚ) < unitScale := Int.cast_pos.mpr unitScale_pos

lemma rational?_eq_some : x.rational? = some q ↔ ∃ scaled, x.place? = some (.point scaled) ∧
    (scaled : ℚ) / unitScale = q := by
  unfold rational?
  split
  · rename_i scaled hplace
    simp [hplace]
  · rename_i hplace
    simp only [reduceCtorEq, false_iff, not_exists, not_and]
    exact fun scaled h => absurd h (hplace scaled)

@[simp] lemma rational?_int (n : Int) : (int n).rational? = some (n : ℚ) := by
  refine rational?_eq_some.mpr ⟨n * unitScale, rfl, ?_⟩
  rw [Int.cast_mul, mul_div_cancel_right₀ _ unitScale_cast_pos.ne']

/-- A number is whole if it is an integer on the number line, in whichever way it is kept. -/
lemma isInteger_iff (x : Number) : x.isInteger = true ↔ ∃ n : Int, x.rational? = some (n : ℚ) := by
  match x with
  | int n => simp [isInteger]
  | float .nan => simp [isInteger, rational?, place?]
  | float (.infinite negative) => cases negative <;> simp [isInteger, rational?, place?]
  | float (.finite b) =>
    have hplace : (float (.finite b)).rational? = some ((b.scaled : ℚ) / unitScale) := rfl
    rw [hplace, isInteger, b.isInteger_iff]
    constructor
    · rintro ⟨n, hn⟩
      refine ⟨n, ?_⟩
      rw [hn, Int.cast_mul, mul_div_cancel_left₀ _ unitScale_cast_pos.ne']
    · rintro ⟨n, hn⟩
      have hcast : (b.scaled : ℚ) = n * unitScale :=
        (div_eq_iff unitScale_cast_pos.ne').mp (Option.some.inj hn)
      refine ⟨n, ?_⟩
      rw [mul_comm]
      exact_mod_cast hcast

lemma place?_abs {scaled : Int} (h : x.place? = some (.point scaled)) :
    x.abs.place? = some (.point scaled.natAbs) := by
  match x with
  | int n =>
    simp only [place?, Option.some.injEq, Place.point.injEq] at h
    subst h
    have hscale : (unitScale.natAbs : Int) = unitScale := Int.natAbs_of_nonneg unitScale_pos.le
    simp only [abs, place?, Int.natAbs_mul, Nat.cast_mul, hscale]
  | float .nan => simp [place?] at h
  | float (.infinite negative) => cases negative <;> simp [place?] at h
  | float (.finite b) =>
    simp only [place?, Option.some.injEq, Place.point.injEq] at h
    subst h
    simp only [abs, place?, b.scaled_abs]

lemma le_iff {y : Number} {p r : Int} (hx : x.place? = some (.point p))
    (hy : y.place? = some (.point r)) : x.le y = true ↔ p ≤ r := by
  simp only [le, lt, same, hx, hy, Place.before, Bool.or_eq_true, decide_eq_true_eq, beq_iff_eq,
    Place.point.injEq]
  omega

/-- Comparison of an absolute value with an integer is comparison of rationals. -/
lemma abs_le_int (h : x.rational? = some q) (n : Int) :
    x.abs.le (int n) = true ↔ |q| ≤ (n : ℚ) := by
  obtain ⟨scaled, hplace, rfl⟩ := rational?_eq_some.mp h
  rw [le_iff (place?_abs hplace) (rfl : (int n).place? = some (.point (n * unitScale))),
    abs_div, abs_of_pos unitScale_cast_pos, div_le_iff₀ unitScale_cast_pos, Int.natCast_natAbs]
  exact_mod_cast Iff.rfl

/-- The numbers that pass are the finite ones up to the greatest exact integer. -/
lemma require_eq_ok (visit : Visit) {y : Number} :
    x.require visit false = .ok y ↔
      (∃ q : ℚ, x.rational? = some q ∧ |q| ≤ greatestExact) ∧ y = x := by
  unfold require
  split
  · simp [Visit.refuse, rational?, place?]
  · rename_i negative
    cases negative <;> simp [Visit.refuse, rational?, place?]
  · rename_i hnan hinfinite
    obtain ⟨q, hq⟩ : ∃ q, x.rational? = some q := by
      cases x with
      | int n => exact ⟨n, rational?_int n⟩
      | float b =>
        cases b with
        | nan => exact absurd rfl hnan
        | infinite negative => exact absurd rfl (hinfinite negative)
        | finite b => exact ⟨_, rfl⟩
    rw [Bool.false_or]
    by_cases hle : x.abs.le (int greatestExact) = true
    · rw [if_pos hle]
      have hbound : |q| ≤ (greatestExact : ℚ) := (abs_le_int hq greatestExact).mp hle
      constructor
      · intro h
        exact ⟨⟨q, hq, hbound⟩, (Except.ok.inj h).symm⟩
      · rintro ⟨_, rfl⟩
        rfl
    · rw [if_neg hle]
      constructor
      · exact fun h => absurd h (by simp)
      · rintro ⟨⟨r, hr, hbound⟩, _⟩
        exact absurd ((abs_le_int hr greatestExact).mpr hbound) hle

end Number

end InputGuard

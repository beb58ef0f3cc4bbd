import InputGuard.Proofs.BinaryIntegers
import InputGuard.Proofs.ReachedRules

/-!
# Multiples of integers

Whether a number is a multiple of a base is found out with binary numbers and up to a tolerance.
Integers up to `2 ^ 53` are binary numbers and the remainder is exact, so an integer that is no
multiple misses the multiples by one at least, far more than is tolerated: among these integers the
test is divisibility.
-/

namespace InputGuard

open Number

lemma unitScale_cast : ((unitScale : ℤ) : ℚ) = 2 ^ (1074 : ℤ) := twoTo_cast 1074

namespace FiniteBinary

lemma natAbs_scaled_cast (x : FiniteBinary) :
    (x.scaled.natAbs : ℚ) = x.magnitude * (unitScale : ℤ) := by
  have hleast : -1074 ≤ x.exponent := x.normal.2.1
  rw [natAbs_scaled, Nat.cast_mul, twoTo_toNat (by omega), two_zpow_add, magnitude, unitScale_cast,
    mul_assoc]

lemma scaled_eq_natAbs (x : FiniteBinary) :
    x.scaled = if x.negative then -(x.scaled.natAbs : ℤ) else (x.scaled.natAbs : ℤ) := by
  rw [natAbs_scaled]
  rfl

lemma scaled_of_magnitude {x : FiniteBinary} {n : ℤ} (hsign : x.negative = decide (n < 0))
    (h : x.magnitude = n.natAbs) : x.scaled = n * unitScale := by
  have habs : (x.scaled.natAbs : ℤ) = n.natAbs * unitScale := by
    refine Int.cast_injective (α := ℚ) ?_
    rw [Int.cast_mul, Int.cast_natCast, Int.cast_natCast, natAbs_scaled_cast, h]
  rw [scaled_eq_natAbs, habs, hsign]
  by_cases hn : n < 0
  · rw [if_pos (decide_eq_true hn), ← neg_mul, Int.ofNat_natAbs_of_nonpos hn.le, neg_neg]
  · rw [if_neg (by simpa using hn), Int.natAbs_of_nonneg (not_lt.mp hn)]

end FiniteBinary

namespace Binary64

/-- The power itself is a binary number, too. -/
lemma ofRatio_natural_le (negative : Bool) {n : ℕ} (h : n ≤ twoTo 53) :
    ∃ x, ofRatio negative n 1 = .finite x ∧ x.negative = negative ∧ x.magnitude = n := by
  rcases h.lt_or_eq with hlt | rfl
  · exact ofRatio_natural negative hlt
  · have hpower : ofRatio negative (twoTo 53) 1 =
        .finite ⟨negative, twoTo 52, 1, by decide⟩ := by
      cases negative <;> decide +kernel
    refine ⟨_, hpower, rfl, ?_⟩
    rw [FiniteBinary.magnitude, twoTo_cast, twoTo_cast, ← two_zpow_add]
    rfl

lemma exists_ofInt? {n : ℤ} (h : |n| ≤ twoTo 53) :
    ∃ x, ofInt? n = some x ∧ x.scaled = n * unitScale := by
  have hn : n.natAbs ≤ twoTo 53 := by
    rw [Int.abs_eq_natAbs] at h
    exact_mod_cast h
  obtain ⟨x, hx, hsign, hmagnitude⟩ := ofRatio_natural_le (decide (n < 0)) hn
  refine ⟨x, ?_, FiniteBinary.scaled_of_magnitude hsign hmagnitude⟩
  rw [ofInt?, hx]

end Binary64

namespace Number

variable {x base : Number} {b n : ℤ}

lemma place?_of_rational (h : x.rational? = some (n : ℚ)) :
    x.place? = some (.point (n * unitScale)) := by
  obtain ⟨scaled, hplace, hscaled⟩ := rational?_eq_some.mp h
  rw [div_eq_iff unitScale_cast_pos.ne'] at hscaled
  have heq : scaled = n * unitScale := by exact_mod_cast hscaled
  rw [hplace, heq]

/-- An integer up to `2 ^ 53` keeps its value as a binary number, in whichever way it is kept. -/
lemma exists_toBinary? (hx : x.rational? = some (n : ℚ)) (hn : |n| ≤ twoTo 53) :
    ∃ y, x.toBinary? = some (.finite y) ∧ y.scaled = n * unitScale := by
  match x with
  | int m =>
    have hm : m = n := by
      rw [rational?_int] at hx
      exact_mod_cast Option.some.inj hx
    obtain ⟨y, hy, hscaled⟩ := Binary64.exists_ofInt? (hm ▸ hn)
    exact ⟨y, by rw [toBinary?, hy, Option.map_some], hm ▸ hscaled⟩
  | float .nan => cases hx
  | float (.infinite negative) => cases negative <;> cases hx
  | float (.finite y) =>
    have hplace := place?_of_rational hx
    exact ⟨y, rfl, Place.point.inj (Option.some.inj hplace)⟩

lemma multipleTolerance_scaled :
    0 ≤ multipleTolerance.scaled ∧ multipleTolerance.scaled < unitScale := by decide +kernel

lemma nearFiniteMultiple_iff {x base : FiniteBinary} (hx : x.scaled = n * unitScale)
    (hbase : base.scaled = b * unitScale) (hpos : 0 < b) :
    nearFiniteMultiple x base = true ↔ b ∣ n := by
  obtain ⟨htolerance, hless⟩ := multipleTolerance_scaled
  have hremainder : x.scaled % base.scaled = n % b * unitScale := by
    rw [hx, hbase, mul_comm n, mul_comm b, Int.mul_emod_mul_of_pos _ _ unitScale_pos, mul_comm]
  have hlt := Int.emod_lt_of_pos n hpos
  unfold nearFiniteMultiple
  dsimp only
  rw [hremainder, hbase, ← sub_mul, decide_eq_true_iff, Int.dvd_iff_emod_eq_zero, min_le_iff]
  constructor
  · -- the distance from a multiple that is not zero is one at least
    intro h
    by_contra hne
    have hlow : 1 ≤ n % b := by
      have hnonneg := Int.emod_nonneg n hpos.ne'
      omega
    rcases h with h | h
    · have hone := mul_le_mul_of_nonneg_right hlow unitScale_pos.le
      rw [one_mul] at hone
      omega
    · have hone := mul_le_mul_of_nonneg_right (show 1 ≤ b - n % b by omega) unitScale_pos.le
      rw [one_mul] at hone
      omega
  · intro hzero
    rw [hzero, zero_mul]
    exact Or.inl htolerance

lemma isMultiple_eq (hbase : base.rational? = some (b : ℚ)) (hx : x.rational? = some (n : ℚ))
    (hpos : 0 < b) (hb : b ≤ twoTo 53) (hn : |n| ≤ twoTo 53) :
    NumberRule.isMultiple x base = .ok (decide (b ∣ n)) := by
  obtain ⟨y, hy, hyscaled⟩ := exists_toBinary? hx hn
  obtain ⟨c, hc, hcscaled⟩ := exists_toBinary? hbase (by rwa [abs_of_pos hpos])
  unfold NumberRule.isMultiple
  rw [hy, hc]
  dsimp only [nearMultiple]
  rw [Bool.eq_iff_iff.mpr ((nearFiniteMultiple_iff hyscaled hcscaled hpos).trans
    decide_eq_true_iff.symm)]

lemma refine_multiple (hbase : base.rational? = some (b : ℚ)) (hpos : 0 < b) :
    (Schema.number .plain [] false).refine "multiple" [.number base] =
      .ok (some (.number .plain [.multiple base] false)) := by
  have hle : base.le (.int 0) = false := by
    rw [← Bool.not_eq_true, le_iff (place?_of_rational hbase) (rfl : (int 0).place? = _),
      zero_mul, not_le]
    exact mul_pos hpos unitScale_pos
  have hrule : NumberRule.ofOperation "multiple" [.number base] = .ok (.multiple base) := by
    change (if base.le (.int 0) then Defined.refuse .multipleBase
      else pure (.multiple base) : Defined NumberRule) = _
    rw [hle]
    rfl
  change (do return some (Schema.number .plain [← NumberRule.ofOperation "multiple"
    [.number base]] false) : Defined (Option Schema)) = _
  rw [hrule]
  rfl

end Number

/-- An integer passes as a multiple of an integer if and only if that divides it, up to `2 ^ 53`,
where the integers end that are accepted at all. -/
theorem attempt_multiple (store : Store) (prefs : Preferences) (env : Environment) {base x : Number}
    {b n : ℤ} (hbase : base.rational? = some (b : ℚ)) (hx : x.rational? = some (n : ℚ))
    (hpos : 0 < b) (hb : b ≤ 2 ^ 53) (hn : |n| ≤ 2 ^ 53 - 1) :
    ∃ schema, (Schema.number .plain [] false).refine "multiple" [.number base] =
        .ok (some schema) ∧
      if b ∣ n then attempt store prefs env schema (.number x) = .ok (.number x)
      else ∃ detail, attempt store prefs env schema (.number x) = .error (.issue detail) ∧
        detail.code = "number.multiple" := by
  refine ⟨_, refine_multiple hbase hpos, ?_⟩
  have hexact : x.require ⟨[], prefs, env⟩ false = .ok x := by
    refine (require_eq_ok _).mpr ⟨⟨n, hx, ?_⟩, rfl⟩
    have hgreatest : greatestExact = 2 ^ 53 - 1 := rfl
    rw [hgreatest]
    exact_mod_cast hn
  have hmultiple : NumberRule.isMultiple x base = .ok (decide (b ∣ n)) :=
    isMultiple_eq hbase hx hpos hb (hn.trans (by decide))
  rw [attempt_numberRule hexact, NumberRule.check, hmultiple]
  by_cases hdvd : b ∣ n
  · rw [if_pos hdvd, decide_eq_true hdvd]
    rfl
  · rw [if_neg hdvd, decide_eq_false hdvd]
    exact ⟨_, rfl, rfl⟩

theorem attempt_multiple_greatest :
    let prefs : Preferences := ⟨true, false⟩
    let env : Environment := .epoch
    (∃ schema, (Schema.number .plain [] false).refine "multiple" [.int 6361] = .ok (some schema) ∧
      attempt .empty prefs env schema (.int 9007199254740991) = .ok (.int 9007199254740991)) ∧
    ∃ schema,
      (Schema.number .plain [] false).refine "multiple" [.int 9007199254740992] =
          .ok (some schema) ∧
      ∃ detail,
        attempt .empty prefs env schema (.int 9007199254740991) = .error (.issue detail) ∧
          detail.code = "number.multiple" := by
  intro prefs env
  have hgreatest : (int 9007199254740991).rational? = some ((9007199254740991 : ℤ) : ℚ) :=
    rational?_int _
  constructor
  · obtain ⟨schema, hschema, hcheck⟩ := attempt_multiple .empty prefs env (rational?_int 6361)
      hgreatest (by decide) (by decide) (by decide)
    rw [if_pos (by decide)] at hcheck
    exact ⟨schema, hschema, hcheck⟩
  · obtain ⟨schema, hschema, hcheck⟩ := attempt_multiple .empty prefs env
      (rational?_int 9007199254740992) hgreatest (by decide) (by decide) (by decide)
    rw [if_neg (by decide)] at hcheck
    exact ⟨schema, hschema, hcheck⟩

end InputGuard

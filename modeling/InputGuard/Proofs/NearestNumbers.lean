import InputGuard.Number.Basic
import Mathlib.Algebra.Order.Field.Power
import Mathlib.Algebra.Order.Ring.Abs
import Mathlib.Data.Rat.Cast.Order
import Mathlib.Tactic.FieldSimp
import Mathlib.Tactic.Linarith
import Mathlib.Tactic.NormNum
import Mathlib.Tactic.Positivity
import Mathlib.Tactic.Push
import Mathlib.Tactic.Ring

/-!
# Numbers nearest to quotients

`Binary64.ofRatio` takes the binary number nearest to a quotient. It finds one if the quotient is
less than `2 ^ 1024 - 2 ^ 970`, halfway from the greatest binary number to where the next one would
be, and misses the quotient by half the distance of binary numbers there at most. No other binary
number is nearer.
-/

namespace InputGuard

lemma two_zpow_pos (k : ℤ) : (0 : ℚ) < 2 ^ k := zpow_pos (by norm_num) k

lemma two_zpow_le {j k : ℤ} (h : j ≤ k) : (2 : ℚ) ^ j ≤ 2 ^ k :=
  zpow_le_zpow_right₀ (by norm_num) h

lemma two_zpow_lt_iff {j k : ℤ} : (2 : ℚ) ^ j < 2 ^ k ↔ j < k :=
  zpow_lt_zpow_iff_right₀ (by norm_num)

lemma two_zpow_add (j k : ℤ) : (2 : ℚ) ^ (j + k) = 2 ^ j * 2 ^ k :=
  zpow_add₀ (by norm_num) j k

lemma twoTo_cast (k : ℕ) : ((twoTo k : ℕ) : ℚ) = 2 ^ (k : ℤ) :=
  (Nat.cast_pow 2 k).trans (zpow_natCast 2 k).symm

lemma twoTo_toNat {k : ℤ} (hk : 0 ≤ k) : ((twoTo k.toNat : ℕ) : ℚ) = 2 ^ k := by
  rw [twoTo_cast, Int.toNat_of_nonneg hk]

lemma twoTo_toNat_neg {k : ℤ} (hk : k ≤ 0) : ((twoTo (-k).toNat : ℕ) : ℚ) = (2 ^ k)⁻¹ := by
  rw [twoTo_toNat (by omega), zpow_neg]

variable {n d m : ℕ}

lemma powerFits_iff (hd : 0 < d) (k : ℤ) :
    powerFits 2 n d k = true ↔ (2 : ℚ) ^ k ≤ n / d := by
  have hd' : (0 : ℚ) < d := Nat.cast_pos.mpr hd
  rw [le_div_iff₀ hd']
  unfold powerFits
  by_cases hk : 0 ≤ k
  · rw [if_pos hk, decide_eq_true_iff, ← twoTo_toNat hk, mul_comm]
    exact_mod_cast Iff.rfl
  · have hpos := two_zpow_pos k
    have hneg : ((Nat.pow 2 (-k).toNat : ℕ) : ℚ) = (2 ^ k)⁻¹ := twoTo_toNat_neg (by omega)
    rw [if_neg hk, decide_eq_true_iff, mul_comm ((2 : ℚ) ^ k), ← le_div_iff₀ hpos, div_eq_mul_inv,
      ← hneg]
    exact_mod_cast Iff.rfl

/-- The quotient lies between the power of two that its logarithm names and the next one. -/
lemma floorLog2_spec (hn : 0 < n) (hd : 0 < d) :
    (2 : ℚ) ^ floorLog2 n d ≤ n / d ∧ (n : ℚ) / d < 2 ^ (floorLog2 n d + 1) := by
  have hd' : (0 : ℚ) < d := Nat.cast_pos.mpr hd
  have bounds : ∀ {a : ℕ}, 0 < a →
      (2 : ℚ) ^ (a.log2 : ℤ) ≤ a ∧ (a : ℚ) < 2 ^ ((a.log2 : ℤ) + 1) := by
    intro a ha
    have hlow : 2 ^ a.log2 ≤ a := Nat.log2_self_le ha.ne'
    have hhigh : a < 2 ^ (a.log2 + 1) := Nat.lt_log2_self
    refine ⟨?_, ?_⟩
    · rw [zpow_natCast]
      exact_mod_cast hlow
    · have hcast : ((a.log2 : ℤ) + 1) = ((a.log2 + 1 : ℕ) : ℤ) := by push_cast; rfl
      rw [hcast, zpow_natCast]
      exact_mod_cast hhigh
  obtain ⟨hnlow, hnhigh⟩ := bounds hn
  obtain ⟨hdlow, hdhigh⟩ := bounds hd
  set k : ℤ := (n.log2 : ℤ) - d.log2 with hk
  have habove : (n : ℚ) / d < 2 ^ (k + 1) := by
    rw [div_lt_iff₀ hd']
    calc (n : ℚ) < 2 ^ ((n.log2 : ℤ) + 1) := hnhigh
      _ = 2 ^ (k + 1) * 2 ^ (d.log2 : ℤ) := by rw [← two_zpow_add]; congr 1; omega
      _ ≤ 2 ^ (k + 1) * d := by gcongr
  have hbelow : (2 : ℚ) ^ (k - 1) ≤ n / d := by
    rw [le_div_iff₀ hd']
    calc (2 : ℚ) ^ (k - 1) * d ≤ 2 ^ (k - 1) * 2 ^ ((d.log2 : ℤ) + 1) := by gcongr
      _ = 2 ^ (n.log2 : ℤ) := by rw [← two_zpow_add]; congr 1; omega
      _ ≤ n := hnlow
  unfold floorLog2
  rw [← hk]
  dsimp only
  by_cases hfits : powerFits 2 n d k = true
  · rw [if_pos hfits]
    exact ⟨(powerFits_iff hd k).mp hfits, habove⟩
  · rw [if_neg hfits, sub_add_cancel]
    exact ⟨hbelow, not_le.mp (mt (powerFits_iff hd k).mpr hfits)⟩

lemma roundQuotient_error (hd : 0 < d) : |(roundQuotient n d : ℚ) - n / d| ≤ 1 / 2 := by
  have hd' : (0 : ℚ) < d := Nat.cast_pos.mpr hd
  have hmod : d * (n / d) + n % d = n := Nat.div_add_mod n d
  have hlt : n % d < d := Nat.mod_lt n hd
  obtain ⟨hlow, hhigh⟩ : 2 * n ≤ (2 * roundQuotient n d + 1) * d ∧
      2 * roundQuotient n d * d ≤ 2 * n + d := by
    unfold roundQuotient
    dsimp only
    generalize n / d = q at hmod ⊢
    generalize n % d = r at hmod hlt ⊢
    split
    · constructor <;> nlinarith
    · split
      · constructor <;> nlinarith
      · rcases Nat.mod_two_eq_zero_or_one q with hq | hq <;> rw [hq] <;> constructor <;> nlinarith
  have hlow' : (n : ℚ) / d ≤ roundQuotient n d + 1 / 2 := by
    have hcast : (2 * n : ℚ) ≤ (2 * roundQuotient n d + 1) * d := by exact_mod_cast hlow
    rw [div_le_iff₀ hd']
    linarith
  have hhigh' : (roundQuotient n d : ℚ) - 1 / 2 ≤ n / d := by
    have hcast : (2 * roundQuotient n d * d : ℚ) ≤ 2 * n + d := by exact_mod_cast hhigh
    rw [le_div_iff₀ hd']
    linarith
  rw [abs_le]
  constructor <;> linarith

/-- Rounding begins to reach an even number half a step below it. -/
lemma roundQuotient_lt_iff (hd : 0 < d) (heven : m % 2 = 0) :
    roundQuotient n d < m ↔ 2 * n + d < 2 * m * d := by
  have hmod : d * (n / d) + n % d = n := Nat.div_add_mod n d
  have hlt : n % d < d := Nat.mod_lt n hd
  unfold roundQuotient
  dsimp only
  generalize n / d = q at hmod ⊢
  generalize n % d = r at hmod hlt ⊢
  rcases Nat.lt_trichotomy (q + 1) m with hq | hq | hq
  · have hround : (if 2 * r < d then q else if d < 2 * r then q + 1 else q + q % 2) < m := by
      split_ifs <;> omega
    exact iff_of_true hround (by nlinarith)
  · -- the number is odd that the quotient lies above, so a tie is rounded up
    subst hq
    have hodd : q % 2 = 1 := by omega
    by_cases hr : 2 * r < d
    · rw [if_pos hr]
      exact iff_of_true (by omega) (by nlinarith)
    · have hround : ¬(if d < 2 * r then q + 1 else q + q % 2) < q + 1 := by
        split_ifs <;> omega
      rw [if_neg hr]
      exact iff_of_false hround (by nlinarith)
  · have hround : ¬(if 2 * r < d then q else if d < 2 * r then q + 1 else q + q % 2) < m := by
      split_ifs <;> omega
    exact iff_of_false hround (by nlinarith)

lemma roundQuotient_mul (n d : ℕ) {k : ℕ} (hk : 0 < k) :
    roundQuotient (n * k) (d * k) = roundQuotient n d := by
  have hlow : 2 * (n % d * k) < d * k ↔ 2 * (n % d) < d := by
    rw [← Nat.mul_assoc, Nat.mul_lt_mul_right hk]
  have hhigh : d * k < 2 * (n % d * k) ↔ d < 2 * (n % d) := by
    rw [← Nat.mul_assoc, Nat.mul_lt_mul_right hk]
  unfold roundQuotient
  rw [Nat.mul_div_mul_right n d hk, Nat.mul_mod_mul_right]
  simp only [hlow, hhigh]

lemma floorLog2_mul (hn : 0 < n) (hd : 0 < d) {k : ℕ} (hk : 0 < k) :
    floorLog2 (n * k) (d * k) = floorLog2 n d := by
  have hk' : (k : ℚ) ≠ 0 := (Nat.cast_pos.mpr hk).ne'
  have hquotient : ((n * k : ℕ) : ℚ) / (d * k : ℕ) = n / d := by
    rw [Nat.cast_mul, Nat.cast_mul, mul_div_mul_right _ _ hk']
  obtain ⟨hlow, hhigh⟩ := floorLog2_spec hn hd
  obtain ⟨hlow', hhigh'⟩ := floorLog2_spec (Nat.mul_pos hn hk) (Nat.mul_pos hd hk)
  rw [hquotient] at hlow' hhigh'
  have hle := two_zpow_lt_iff.mp (hlow.trans_lt hhigh')
  have hge := two_zpow_lt_iff.mp (hlow'.trans_lt hhigh)
  omega

/-- The absolute value of a finite number. -/
def FiniteBinary.magnitude (x : FiniteBinary) : ℚ := x.mantissa * 2 ^ x.exponent

lemma FiniteBinary.ratio_pos (x : FiniteBinary) : 0 < x.ratio.2 := by
  unfold ratio
  split
  · exact Nat.one_pos
  · exact Nat.pow_pos (by decide)

lemma FiniteBinary.magnitude_eq (x : FiniteBinary) :
    x.magnitude = (x.ratio.1 : ℚ) / x.ratio.2 := by
  unfold magnitude ratio
  by_cases he : 0 ≤ x.exponent
  · rw [if_pos he, Nat.cast_mul, twoTo_toNat he, Nat.cast_one, div_one]
  · rw [if_neg he, twoTo_toNat_neg (by omega), div_inv_eq_mul]

namespace Binary64

/-- The exponent of the last binary place that a quotient is rounded to. -/
def place (n d : ℕ) : ℤ := max (-1074) (floorLog2 n d - 52)

/-- The number of units of that place that are nearest to a quotient. -/
def units (n d : ℕ) : ℕ :=
  if 0 ≤ place n d then roundQuotient n (d * twoTo (place n d).toNat)
  else roundQuotient (n * twoTo (-place n d).toNat) d

lemma ofRatio_eq (negative : Bool) (hn : 0 < n) :
    ofRatio negative n d =
      if units n d = twoTo 53 then ofScaled negative (twoTo 52) (place n d + 1)
      else ofScaled negative (units n d) (place n d) := by
  unfold ofRatio
  rw [if_neg hn.ne']
  rfl

/-- The units of the last place are the nearest ones. -/
lemma units_error (hd : 0 < d) : |(units n d : ℚ) - n / d / 2 ^ place n d| ≤ 1 / 2 := by
  unfold units
  by_cases he : 0 ≤ place n d
  · have hpos : 0 < d * twoTo (place n d).toNat := Nat.mul_pos hd (Nat.pow_pos (by decide))
    have herror := roundQuotient_error (n := n) hpos
    rw [Nat.cast_mul, twoTo_toNat he, ← div_div] at herror
    rwa [if_pos he]
  · have herror := roundQuotient_error (n := n * twoTo (-place n d).toNat) hd
    rw [Nat.cast_mul, twoTo_toNat_neg (by omega), mul_div_right_comm, ← div_eq_mul_inv] at herror
    rwa [if_neg he]

lemma units_le (hn : 0 < n) (hd : 0 < d) : units n d ≤ twoTo 53 := by
  have herror := units_error (n := n) hd
  have hplace : floorLog2 n d - 52 ≤ place n d := le_max_right _ _
  have hquotient : (n : ℚ) / d / 2 ^ place n d < (twoTo 53 : ℕ) := by
    rw [twoTo_cast, div_lt_iff₀ (two_zpow_pos _), ← two_zpow_add]
    exact (floorLog2_spec hn hd).2.trans_le (two_zpow_le (by omega))
  have hbound : (units n d : ℚ) < (twoTo 53 : ℕ) + 1 := by
    linarith [(abs_le.mp herror).2]
  exact Nat.lt_succ_iff.mp (by exact_mod_cast hbound)

lemma le_units (hn : 0 < n) (hd : 0 < d) (hplace : place n d ≠ -1074) :
    twoTo 52 ≤ units n d := by
  have herror := units_error (n := n) hd
  have hplace' : place n d = floorLog2 n d - 52 := by
    unfold place at *
    omega
  have hquotient : ((twoTo 52 : ℕ) : ℚ) ≤ n / d / 2 ^ place n d := by
    rw [twoTo_cast, le_div_iff₀ (two_zpow_pos _), ← two_zpow_add]
    exact (two_zpow_le (by omega)).trans (floorLog2_spec hn hd).1
  have hbound : ((twoTo 52 : ℕ) : ℚ) < units n d + 1 := by
    linarith [(abs_le.mp herror).1]
  exact Nat.lt_succ_iff.mp (by exact_mod_cast hbound)

/-- The nearest number is one of the units of the last place, unless it is out of range. -/
lemma ofRatio_of_place (negative : Bool) (hn : 0 < n) (hd : 0 < d)
    (hrange : place n d ≤ 970 ∨ place n d = 971 ∧ units n d < twoTo 53) :
    ∃ x, ofRatio negative n d = .finite x ∧ x.negative = negative ∧
      x.magnitude = units n d * 2 ^ place n d := by
  have hleast : -1074 ≤ place n d := le_max_left _ _
  rw [ofRatio_eq negative hn]
  by_cases hunits : units n d = twoTo 53
  · have hnormal : IsNormal (twoTo 52) (place n d + 1) := by
      refine ⟨by decide, by omega, by omega, Or.inl le_rfl⟩
    rw [if_pos hunits, ofScaled, dif_pos hnormal]
    refine ⟨_, rfl, rfl, ?_⟩
    rw [FiniteBinary.magnitude, hunits, two_zpow_add]
    norm_num
    ring
  · have hlt : units n d < twoTo 53 := lt_of_le_of_ne (units_le hn hd) hunits
    have hnormal : IsNormal (units n d) (place n d) := by
      refine ⟨hlt, hleast, by omega, ?_⟩
      by_cases hplace : place n d = -1074
      · exact Or.inr hplace
      · exact Or.inl (le_units hn hd hplace)
    rw [if_neg hunits, ofScaled, dif_pos hnormal]
    exact ⟨_, rfl, rfl, rfl⟩

/-- The number depends on the quotient alone. -/
lemma ofRatio_mul (negative : Bool) (n : ℕ) (hd : 0 < d) {k : ℕ} (hk : 0 < k) :
    ofRatio negative (n * k) (d * k) = ofRatio negative n d := by
  rcases Nat.eq_zero_or_pos n with rfl | hn
  · rw [Nat.zero_mul]
    rfl
  · have hplace : place (n * k) (d * k) = place n d := by
      rw [place, place, floorLog2_mul hn hd hk]
    have hunits : units (n * k) (d * k) = units n d := by
      unfold units
      rw [hplace]
      split
      · rw [Nat.mul_right_comm d, roundQuotient_mul _ _ hk]
      · rw [Nat.mul_right_comm n, roundQuotient_mul _ _ hk]
    rw [ofRatio_eq negative (Nat.mul_pos hn hk), ofRatio_eq negative hn, hplace, hunits]

/-- A quotient below a power of two has a nearest number, at most half a unit of the fifty-third
binary place below that power away. -/
theorem exists_ofRatio (negative : Bool) (hd : 0 < d) (k : ℕ) (hk : k ≤ 1023)
    (hlt : (n : ℚ) / d < 2 ^ k) :
    ∃ x, ofRatio negative n d = .finite x ∧ x.negative = negative ∧
      |x.magnitude - n / d| ≤ 2 ^ ((k : ℤ) - 54) := by
  rcases Nat.eq_zero_or_pos n with rfl | hn
  · refine ⟨.zero negative, rfl, rfl, ?_⟩
    have hzero : (FiniteBinary.zero negative).magnitude = 0 := by
      simp [FiniteBinary.magnitude, FiniteBinary.zero]
    rw [hzero, Nat.cast_zero, zero_div, sub_zero, abs_zero]
    exact (two_zpow_pos _).le
  · have hlog : floorLog2 n d < k := by
      have hpow := (floorLog2_spec hn hd).1.trans_lt hlt
      rw [← zpow_natCast] at hpow
      exact two_zpow_lt_iff.mp hpow
    have hplace : place n d ≤ k - 53 := by
      unfold place
      omega
    obtain ⟨x, hx, hsign, hvalue⟩ := ofRatio_of_place negative hn hd (Or.inl (by omega))
    refine ⟨x, hx, hsign, ?_⟩
    have hpos := two_zpow_pos (place n d)
    have herror := units_error (n := n) hd
    calc |x.magnitude - n / d|
        = |((units n d : ℚ) - n / d / 2 ^ place n d) * 2 ^ place n d| := by
          rw [hvalue, sub_mul, div_mul_cancel₀ _ hpos.ne']
      _ = |(units n d : ℚ) - n / d / 2 ^ place n d| * 2 ^ place n d := by
          rw [abs_mul, abs_of_pos hpos]
      _ ≤ 1 / 2 * 2 ^ place n d := by gcongr
      _ = 2 ^ (place n d - 1) := by rw [zpow_sub₀ (by norm_num)]; ring
      _ ≤ 2 ^ ((k : ℤ) - 54) := two_zpow_le (by omega)

/-- The least number that is rounded out of the range of binary numbers. -/
def leastInfinite : ℕ := 2 ^ 1024 - 2 ^ 970

lemma leastInfinite_eq : leastInfinite = twoTo 970 * (2 * twoTo 53 - 1) := by decide +kernel

lemma lt_leastInfinite (hn : 0 < n) (hd : 0 < d) (hplace : place n d < 971) :
    n < leastInfinite * d := by
  have hd' : (0 : ℚ) < d := Nat.cast_pos.mpr hd
  have hlog : floorLog2 n d + 1 ≤ 1023 := by
    unfold place at hplace
    omega
  have hlt : (n : ℚ) < twoTo 1023 * d := by
    rw [twoTo_cast, ← div_lt_iff₀ hd']
    exact (floorLog2_spec hn hd).2.trans_le (two_zpow_le hlog)
  have hbound : twoTo 1023 * d ≤ leastInfinite * d := Nat.mul_le_mul_right d (by decide +kernel)
  exact lt_of_lt_of_le (by exact_mod_cast hlt) hbound

lemma leastInfinite_le (hn : 0 < n) (hd : 0 < d) (hplace : 971 < place n d) :
    leastInfinite * d ≤ n := by
  have hd' : (0 : ℚ) < d := Nat.cast_pos.mpr hd
  have hlog : 1024 ≤ floorLog2 n d := by
    unfold place at hplace
    omega
  have hle : (twoTo 1024 * d : ℚ) ≤ n := by
    rw [twoTo_cast, ← le_div_iff₀ hd']
    exact (two_zpow_le hlog).trans (floorLog2_spec hn hd).1
  have hbound : leastInfinite * d ≤ twoTo 1024 * d := Nat.mul_le_mul_right d (by decide +kernel)
  exact hbound.trans (by exact_mod_cast hle)

/-- The bound is half a unit below the number after the greatest one. -/
lemma units_lt_iff (hd : 0 < d) (hplace : place n d = 971) :
    units n d < twoTo 53 ↔ n < leastInfinite * d := by
  have hpos : 0 < d * twoTo 971 := Nat.mul_pos hd (by decide +kernel)
  have hround : units n d = roundQuotient n (d * twoTo 971) := by
    have hnat : (971 : ℤ).toNat = 971 := rfl
    rw [units, hplace, if_pos (by norm_num), hnat]
  have hstep : d * twoTo 971 = 2 * (twoTo 970 * d) := by
    have hpow : twoTo 971 = 2 * twoTo 970 := by decide +kernel
    rw [hpow]
    ring
  have hbound : leastInfinite * d = (2 * twoTo 53 - 1) * (twoTo 970 * d) := by
    rw [leastInfinite_eq]
    ring
  rw [hround, roundQuotient_lt_iff hpos (by decide), hstep, hbound]
  generalize twoTo 970 * d = step
  have hval : twoTo 53 = 9007199254740992 := by decide
  rw [hval]
  omega

lemma ofScaled_ne_finite {negative : Bool} {m : ℕ} {e : ℤ} {x : FiniteBinary} (he : 971 < e) :
    ofScaled negative m e ≠ .finite x := by
  have hrange : ¬IsNormal m e := fun h => by
    have hexponent := h.2.2.1
    omega
  rw [ofScaled, dif_neg hrange]
  nofun

/-- Quotients below the bound have a nearest number, and no others do. -/
theorem exists_ofRatio_iff (negative : Bool) (hd : 0 < d) :
    (∃ x, ofRatio negative n d = .finite x) ↔ n < leastInfinite * d := by
  rcases Nat.eq_zero_or_pos n with rfl | hn
  · have hbound : 0 < leastInfinite * d := Nat.mul_pos (by decide +kernel) hd
    exact iff_of_true ⟨_, rfl⟩ hbound
  rcases lt_trichotomy (place n d) 971 with hplace | hplace | hplace
  · obtain ⟨x, hx, -⟩ := ofRatio_of_place negative hn hd (Or.inl (by omega))
    exact iff_of_true ⟨x, hx⟩ (lt_leastInfinite hn hd hplace)
  · rw [← units_lt_iff hd hplace]
    constructor
    · rintro ⟨x, hx⟩
      by_contra hlarge
      have htop : units n d = twoTo 53 := le_antisymm (units_le hn hd) (not_lt.mp hlarge)
      rw [ofRatio_eq negative hn, if_pos htop] at hx
      exact ofScaled_ne_finite (by omega) hx
    · intro hlt
      obtain ⟨x, hx, -⟩ := ofRatio_of_place negative hn hd (Or.inr ⟨hplace, hlt⟩)
      exact ⟨x, hx⟩
  · refine iff_of_false ?_ (not_lt.mpr (leastInfinite_le hn hd hplace))
    rintro ⟨x, hx⟩
    rw [ofRatio_eq negative hn] at hx
    split at hx
    · exact ofScaled_ne_finite (by omega) hx
    · exact ofScaled_ne_finite hplace hx

end Binary64

lemma FiniteBinary.magnitude_lt (x : FiniteBinary) : x.magnitude < 2 ^ (x.exponent + 53) := by
  have hmantissa : (x.mantissa : ℚ) < (twoTo 53 : ℕ) := Nat.cast_lt.mpr x.normal.1
  rw [magnitude, add_comm, two_zpow_add]
  rw [twoTo_cast] at hmantissa
  exact mul_lt_mul_of_pos_right hmantissa (two_zpow_pos _)

lemma FiniteBinary.exists_units (x : FiniteBinary) {k : ℤ} (hk : k ≤ x.exponent) :
    ∃ m : ℕ, x.magnitude = m * 2 ^ k := by
  refine ⟨x.mantissa * twoTo (x.exponent - k).toNat, ?_⟩
  rw [magnitude, Nat.cast_mul, twoTo_toNat (by omega), mul_assoc, ← two_zpow_add, sub_add_cancel]

namespace Binary64

lemma magnitude_ofRatio {negative : Bool} {x : FiniteBinary} (hn : 0 < n)
    (hx : ofRatio negative n d = .finite x) : x.magnitude = units n d * 2 ^ place n d := by
  have hscaled : ∀ {m e}, ofScaled negative m e = .finite x → x.magnitude = m * 2 ^ e := by
    intro m e h
    unfold ofScaled at h
    split at h
    · cases h
      rfl
    · cases h
  rw [ofRatio_eq negative hn] at hx
  split at hx
  · rename_i hunits
    rw [hscaled hx, hunits, two_zpow_add]
    norm_num
    ring
  · exact hscaled hx

/-- Of all numbers of units of the last place, the one that is taken is the nearest. -/
lemma units_nearest (hd : 0 < d) (m : ℕ) :
    |units n d * 2 ^ place n d - (n : ℚ) / d| ≤ |m * 2 ^ place n d - (n : ℚ) / d| := by
  have hpos := two_zpow_pos (place n d)
  have hscale : ∀ k : ℕ, |k * 2 ^ place n d - (n : ℚ) / d| =
      |(k : ℚ) - n / d / 2 ^ place n d| * 2 ^ place n d := by
    intro k
    rw [← abs_of_pos hpos, ← abs_mul, abs_of_pos hpos, sub_mul, div_mul_cancel₀ _ hpos.ne']
  rw [hscale, hscale]
  refine mul_le_mul_of_nonneg_right ?_ hpos.le
  rcases eq_or_ne m (units n d) with rfl | hne
  · exact le_rfl
  · have herror := units_error (n := n) hd
    have hone : (1 : ℚ) ≤ |(m : ℚ) - units n d| := by
      have hdiff : (m : ℤ) - units n d ≠ 0 := sub_ne_zero.mpr (by exact_mod_cast hne)
      exact_mod_cast Int.one_le_abs hdiff
    have hsplit := abs_sub_le (m : ℚ) ((n : ℚ) / d / 2 ^ place n d) (units n d)
    rw [abs_sub_comm ((n : ℚ) / d / _)] at hsplit
    linarith

/-- No binary number is nearer to a quotient than the one that is taken for it. -/
theorem ofRatio_nearest {negative : Bool} {x : FiniteBinary} (hd : 0 < d)
    (hx : ofRatio negative n d = .finite x) (y : FiniteBinary) :
    |x.magnitude - n / d| ≤ |y.magnitude - n / d| := by
  rcases Nat.eq_zero_or_pos n with rfl | hn
  · cases hx
    have hzero : (FiniteBinary.zero negative).magnitude = 0 := by
      simp [FiniteBinary.magnitude, FiniteBinary.zero]
    rw [hzero, Nat.cast_zero, zero_div, sub_zero, abs_zero]
    exact abs_nonneg _
  · rw [magnitude_ofRatio hn hx]
    by_cases hy : place n d ≤ y.exponent
    · obtain ⟨m, hm⟩ := y.exists_units hy
      rw [hm]
      exact units_nearest hd m
    · -- numbers with smaller units are all below the power of two below the quotient
      have hleast : -1074 ≤ y.exponent := y.normal.2.1
      have hlog : ((52 : ℕ) : ℤ) + place n d = floorLog2 n d := by
        unfold place at hy ⊢
        omega
      have hpower : ((twoTo 52 : ℕ) : ℚ) * 2 ^ place n d ≤ n / d := by
        rw [twoTo_cast, ← two_zpow_add, hlog]
        exact (floorLog2_spec hn hd).1
      have hbelow : y.magnitude ≤ (twoTo 52 : ℕ) * 2 ^ place n d := by
        rw [twoTo_cast, ← two_zpow_add]
        exact y.magnitude_lt.le.trans (two_zpow_le (by omega))
      refine (units_nearest hd (twoTo 52)).trans ?_
      rw [abs_of_nonpos (by linarith), abs_of_nonpos (by linarith)]
      linarith

end Binary64

end InputGuard

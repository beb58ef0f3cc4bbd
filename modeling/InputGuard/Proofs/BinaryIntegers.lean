import InputGuard.Proofs.Digits
import InputGuard.Proofs.NearestNumbers

/-!
# Integers among the binary numbers

Naturals below `2 ^ 53`, and their quotients by powers of two, are binary numbers and are taken for
themselves. From `2 ^ 53` on, the binary number that is nearest to a natural is an integer that is
not below `2 ^ 53` either, as long as there is such a number.
-/

namespace InputGuard

namespace FiniteBinary

variable {x : FiniteBinary} {k : ℕ}

lemma truncate_eq (x : FiniteBinary) : x.truncate =
    if x.negative then -((x.ratio.1 / x.ratio.2 : ℕ) : ℤ)
    else ((x.ratio.1 / x.ratio.2 : ℕ) : ℤ) := by
  unfold truncate
  obtain ⟨n, d⟩ := x.ratio
  dsimp only

lemma isInteger_of_magnitude (h : x.magnitude = k) :
    x.isInteger = true ∧ x.truncate = if x.negative then -(k : ℤ) else k := by
  have hpos := x.ratio_pos
  have hratio : x.ratio.1 = k * x.ratio.2 := by
    rw [x.magnitude_eq, div_eq_iff (Nat.cast_pos.mpr hpos).ne'] at h
    exact_mod_cast h
  constructor
  · unfold isInteger
    dsimp only
    rw [hratio, Nat.mul_mod_left]
    rfl
  · rw [truncate_eq, hratio, Nat.mul_div_cancel k hpos]

/-- From the fifty-third power of two on, all binary numbers are integers. -/
lemma exists_natural (h : ((twoTo 53 : ℕ) : ℚ) ≤ x.magnitude) : ∃ k : ℕ, x.magnitude = k := by
  have hpower := h.trans_lt x.magnitude_lt
  rw [twoTo_cast, two_zpow_lt_iff] at hpower
  obtain ⟨k, hk⟩ := x.exists_units (k := 0) (by omega)
  exact ⟨k, by rw [hk, zpow_zero, mul_one]⟩

end FiniteBinary

namespace Binary64

variable {negative : Bool} {n j : ℕ}

lemma place_dyadic_le (hn : 0 < n) (hlt : n < twoTo 53) (hj : j ≤ 1074) :
    place n (twoTo j) ≤ -j := by
  have hpos : (0 : ℚ) < twoTo j := Nat.cast_pos.mpr (Nat.pow_pos (by decide))
  have hlog : floorLog2 n (twoTo j) < 53 - j := by
    rw [← two_zpow_lt_iff]
    calc (2 : ℚ) ^ floorLog2 n (twoTo j) ≤ n / twoTo j :=
          (floorLog2_spec hn (Nat.cast_pos.mp hpos)).1
      _ < (twoTo 53 : ℕ) / twoTo j := by gcongr
      _ = 2 ^ (53 - j : ℤ) := by
          rw [twoTo_cast, twoTo_cast, zpow_sub₀ (by norm_num)]
          rfl
  unfold place
  omega

/-- A quotient of a natural by a power of two is taken for itself. -/
theorem ofRatio_dyadic (negative : Bool) (hlt : n < twoTo 53) (hj : j ≤ 1074) :
    ∃ x, ofRatio negative n (twoTo j) = .finite x ∧ x.negative = negative ∧
      x.magnitude = n / twoTo j := by
  have hpos : 0 < twoTo j := Nat.pow_pos (by decide)
  rcases Nat.eq_zero_or_pos n with rfl | hn
  · refine ⟨.zero negative, rfl, rfl, ?_⟩
    simp [FiniteBinary.magnitude, FiniteBinary.zero]
  · have hplace := place_dyadic_le hn hlt hj
    obtain ⟨x, hx, hsign, hvalue⟩ := ofRatio_of_place negative hn hpos (Or.inl (by omega))
    refine ⟨x, hx, hsign, ?_⟩
    -- the quotient is a number of units of the last place
    have hunits : ((n * twoTo (-j - place n (twoTo j)).toNat : ℕ) : ℚ) * 2 ^ place n (twoTo j) =
        n / twoTo j := by
      rw [Nat.cast_mul, twoTo_toNat (by omega), mul_assoc, ← two_zpow_add, sub_add_cancel,
        zpow_neg, twoTo_cast, div_eq_mul_inv]
    have hnearest := units_nearest (n := n) hpos (n * twoTo (-j - place n (twoTo j)).toNat)
    rw [hunits, sub_self, abs_zero, ← hvalue] at hnearest
    exact sub_eq_zero.mp (abs_nonpos_iff.mp hnearest)

lemma ofRatio_natural (negative : Bool) (hlt : n < twoTo 53) :
    ∃ x, ofRatio negative n 1 = .finite x ∧ x.negative = negative ∧ x.magnitude = n := by
  obtain ⟨x, hx, hsign, hvalue⟩ := ofRatio_dyadic negative hlt (Nat.zero_le 1074)
  have hone : ((twoTo 0 : ℕ) : ℚ) = 1 := Nat.cast_one
  rw [hone, div_one] at hvalue
  exact ⟨x, hx, hsign, hvalue⟩

/-- No number above the fifty-third power of two is rounded to one below it. -/
lemma le_magnitude {x : FiniteBinary} (hx : ofRatio negative n 1 = .finite x)
    (hn : twoTo 53 ≤ n) : ((twoTo 53 : ℕ) : ℚ) ≤ x.magnitude := by
  have hpower : (⟨false, twoTo 52, 1, by decide⟩ : FiniteBinary).magnitude = (twoTo 53 : ℕ) := by
    rw [FiniteBinary.magnitude, twoTo_cast, twoTo_cast, ← two_zpow_add]
    rfl
  have hle : ((twoTo 53 : ℕ) : ℚ) ≤ n := Nat.cast_le.mpr hn
  have hnearest := ofRatio_nearest Nat.one_pos hx ⟨false, twoTo 52, 1, by decide⟩
  rw [hpower, Nat.cast_one, div_one, abs_of_nonpos (sub_nonpos.mpr hle)] at hnearest
  have hbelow := (abs_le.mp hnearest).1
  linarith

lemma ofRatio_cases (negative : Bool) (n d : ℕ) :
    (∃ x, ofRatio negative n d = .finite x) ∨ ofRatio negative n d = .infinite negative := by
  have hscaled : ∀ m e, (∃ x, ofScaled negative m e = .finite x) ∨
      ofScaled negative m e = .infinite negative := by
    intro m e
    unfold ofScaled
    split
    · exact Or.inl ⟨_, rfl⟩
    · exact Or.inr rfl
  rcases Nat.eq_zero_or_pos n with rfl | hn
  · exact Or.inl ⟨_, rfl⟩
  · rw [ofRatio_eq negative hn]
    split
    · exact hscaled _ _
    · exact hscaled _ _

lemma ofDecimal_natural (negative : Bool) (n : ℕ) : ofDecimal negative n 0 =
    if digitCount n ≤ 400 then ofRatio negative n 1 else .infinite negative := by
  have hone : n * tenTo (0 : ℤ).toNat = n := Nat.mul_one n
  unfold ofDecimal
  by_cases hn : n = 0
  · subst hn
    rfl
  · dsimp only
    rw [if_neg hn, hone, if_pos le_rfl]
    by_cases hcount : digitCount n ≤ 400
    · rw [if_neg (by omega), if_neg (by omega), if_pos hcount]
    · rw [if_pos (by omega), if_neg hcount]

/-- A natural is read as a binary number below the bound of their range. -/
lemma ofDecimal_infinite_iff (negative : Bool) (n : ℕ) :
    ofDecimal negative n 0 = .infinite negative ↔ leastInfinite ≤ n := by
  have hrange : leastInfinite ≤ n ↔ ¬∃ x, ofRatio negative n 1 = .finite x := by
    rw [exists_ofRatio_iff negative Nat.one_pos, Nat.mul_one, not_lt]
  have hbound : leastInfinite ≤ tenTo 400 := by decide +kernel
  rw [ofDecimal_natural]
  by_cases hcount : digitCount n ≤ 400
  · rw [if_pos hcount, hrange]
    rcases ofRatio_cases negative n 1 with ⟨x, hx⟩ | hinfinite
    · rw [hx]
      exact iff_of_false nofun (fun h => h ⟨x, rfl⟩)
    · rw [hinfinite]
      exact iff_of_true rfl (fun ⟨_, h⟩ => nomatch h)
  · rw [if_neg hcount]
    rw [digitCount_le_iff (by decide), not_lt] at hcount
    exact iff_of_true rfl (hbound.trans hcount)

/-- A natural below `2 ^ 53` is read exactly. -/
lemma ofDecimal_exact (negative : Bool) (hlt : n < twoTo 53) :
    ∃ x, ofDecimal negative n 0 = .finite x ∧ x.negative = negative ∧ x.magnitude = n := by
  have hcount : digitCount n ≤ 400 := by
    rw [digitCount_le_iff (by decide)]
    exact hlt.trans (by decide +kernel)
  rw [ofDecimal_natural, if_pos hcount]
  exact ofRatio_natural negative hlt

end Binary64

end InputGuard

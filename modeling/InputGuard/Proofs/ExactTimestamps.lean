import InputGuard.Proofs.DateReadings
import InputGuard.Proofs.Milliseconds

/-!
# Exact timestamps

A number of seconds is the moment that it says. A number of milliseconds is taken through the binary
number nearest to a thousandth of it, and far from 1970 binary numbers are more than a microsecond
apart: the moment is the one that the number says just when some binary number of seconds is within
half a microsecond of it, and at most fifteen microseconds away otherwise.
-/

namespace InputGuard

/-- An even number is the rounding of the quotients up to a half away. -/
lemma roundQuotient_eq_iff {n d m : ℕ} (hd : 0 < d) (heven : m % 2 = 0) :
    roundQuotient n d = m ↔ |(n : ℚ) / d - m| ≤ 1 / 2 := by
  constructor
  · rintro rfl
    rw [abs_sub_comm]
    exact roundQuotient_error hd
  · intro hhalf
    have hd' : (0 : ℚ) < d := Nat.cast_pos.mpr hd
    obtain ⟨hlow, hhigh⟩ : 2 * m * d ≤ 2 * n + d ∧ 2 * n ≤ (2 * m + 1) * d := by
      rw [abs_le, le_sub_iff_add_le, sub_le_iff_le_add, le_div_iff₀ hd', div_le_iff₀ hd'] at hhalf
      constructor
      · have hcast : (2 * m * d : ℚ) ≤ 2 * n + d := by linarith
        exact_mod_cast hcast
      · have hcast : (2 * n : ℚ) ≤ (2 * m + 1) * d := by linarith
        exact_mod_cast hcast
    have hge : ¬roundQuotient n d < m := by
      rw [roundQuotient_lt_iff hd heven]
      omega
    have hle : roundQuotient n d ≤ m := by
      have hmod : d * (n / d) + n % d = n := Nat.div_add_mod n d
      have hquotient : n / d ≤ m := by
        by_contra hlarge
        have hsucc : m + 1 ≤ n / d := by omega
        have hmul := (Nat.mul_le_mul_left d hsucc).trans (Nat.mul_div_le n d)
        linarith
      unfold roundQuotient
      dsimp only
      rcases hquotient.lt_or_eq with hlt | heq
      · split_ifs <;> omega
      · -- the quotient is at most a half above an even number
        have htie : 2 * (n % d) ≤ d := by
          rw [heq] at hmod
          nlinarith
        rw [heq, if_neg (not_lt.mpr htie)]
        split_ifs <;> omega
    omega

namespace FiniteBinary

variable (x : FiniteBinary)

/-- The fraction of a number, without the sign. -/
def fraction : ℚ := ((x.ratio.1 % x.ratio.2 : ℕ) : ℚ) / x.ratio.2

lemma exists_ratio_eq {j : ℕ} (hj : -(j : ℤ) ≤ x.exponent) : ∃ k ≤ j, x.ratio.2 = twoTo k := by
  unfold ratio
  by_cases he : 0 ≤ x.exponent
  · rw [if_pos he]
    exact ⟨0, Nat.zero_le j, rfl⟩
  · rw [if_neg he]
    exact ⟨(-x.exponent).toNat, by omega, rfl⟩

variable {x}

/-- Where the last place is not too small the fraction in microseconds is a binary number. -/
lemma fractionMicros_eq_iff (hx : -20 ≤ x.exponent) {m : ℕ} (heven : m % 2 = 0) :
    x.fractionMicros = m ↔ |x.fraction * 1000000 - m| ≤ 1 / 2 := by
  obtain ⟨k, hk, hratio⟩ := x.exists_ratio_eq (j := 20) hx
  have hlt : x.ratio.1 % x.ratio.2 * microsPerSecond < twoTo 53 := by
    have hmod : x.ratio.1 % x.ratio.2 < x.ratio.2 := Nat.mod_lt _ x.ratio_pos
    have hpower : x.ratio.2 ≤ twoTo 20 := hratio ▸ Nat.pow_le_pow_right (by decide) hk
    calc x.ratio.1 % x.ratio.2 * microsPerSecond
        < twoTo 20 * microsPerSecond :=
          Nat.mul_lt_mul_of_pos_right (hmod.trans_le hpower) (by decide)
      _ < twoTo 53 := by decide
  obtain ⟨f, hf, -, hmagnitude⟩ := Binary64.ofRatio_dyadic false hlt (hk.trans (by decide))
  rw [← hratio] at hf hmagnitude
  have hvalue : x.fraction * 1000000 = (f.ratio.1 : ℚ) / f.ratio.2 := by
    rw [← f.magnitude_eq, hmagnitude, fraction, microsPerSecond]
    push_cast
    ring
  rw [fractionMicros, hf, hvalue]
  exact roundQuotient_eq_iff f.ratio_pos heven

lemma value_eq : x.value = if x.negative then -((x.ratio.1 / x.ratio.2 : ℕ) + x.fraction : ℚ)
    else (x.ratio.1 / x.ratio.2 : ℕ) + x.fraction := by
  rw [value, magnitude_split]
  rfl

lemma fraction_nonneg (x : FiniteBinary) : 0 ≤ x.fraction :=
  div_nonneg (Nat.cast_nonneg _) (Nat.cast_nonneg _)

/-- An even number of microseconds is reached from half a microsecond away on. -/
lemma wholeMicros_eq_iff (hx : -20 ≤ x.exponent) {n : ℤ} (heven : n % 2 = 0) :
    x.wholeMicros = n ↔ |x.value * 1000000 - n| ≤ 1 / 2 := by
  -- without the signs, and without the whole seconds
  have hfraction : ∀ k : ℤ, k % 2 = 0 →
      ((x.fractionMicros : ℤ) = k ↔ |x.fraction * 1000000 - k| ≤ 1 / 2) := by
    intro k hk
    rcases le_or_gt 0 k with hpos | hneg
    · lift k to ℕ using hpos
      rw [Nat.cast_inj, fractionMicros_eq_iff hx (by omega), Int.cast_natCast]
    · have hle : (k : ℚ) ≤ -2 := by
        have hle' : k ≤ -2 := by omega
        exact_mod_cast hle'
      refine iff_of_false (by omega) (not_le.mpr ?_)
      have hnonneg := x.fraction_nonneg
      rw [abs_of_nonneg (by linarith)]
      linarith
  rw [wholeMicros_eq, value_eq]
  generalize x.ratio.1 / x.ratio.2 = seconds
  have hsecond : microsPerSecond = 1000000 := rfl
  rw [hsecond]
  by_cases hsign : x.negative = true
  · rw [if_pos hsign, if_pos hsign]
    have hshift := hfraction (-n - seconds * 1000000) (by omega)
    have hdistance : -(seconds + x.fraction : ℚ) * 1000000 - n =
        -(x.fraction * 1000000 - (-n - seconds * 1000000 : ℤ)) := by
      push_cast
      ring
    rw [hdistance, abs_neg, ← hshift]
    push_cast
    constructor <;> intro h <;> omega
  · rw [if_neg hsign, if_neg hsign]
    have hshift := hfraction (n - seconds * 1000000) (by omega)
    have hdistance : (seconds + x.fraction : ℚ) * 1000000 - n =
        x.fraction * 1000000 - (n - seconds * 1000000 : ℤ) := by
      push_cast
      ring
    rw [hdistance, ← hshift]
    push_cast
    constructor <;> intro h <;> omega

end FiniteBinary

/-- Some binary number of seconds is within half a microsecond of a number of milliseconds. -/
def NearBinary (t : ℤ) : Prop := ∃ x : FiniteBinary, |x.value - t / 1000| ≤ 1 / 2000000

variable {t : ℤ}

lemma nearBinary_of_lt (ht : t.natAbs < 2 ^ 33 * 1000) : NearBinary t := by
  obtain ⟨y, -, hnear, -⟩ := exists_thousandth_exact ht
  exact ⟨y, hnear⟩

lemma nearBinary_of_dvd (ht : t.natAbs < twoTo 53) (h : 1000 ∣ t) : NearBinary t := by
  obtain ⟨s, rfl⟩ := h
  have hs : s.natAbs < twoTo 53 := by omega
  obtain ⟨x, -, hsign, hmagnitude⟩ := Binary64.ofRatio_natural (decide (s < 0)) hs
  refine ⟨x, ?_⟩
  rw [FiniteBinary.value_eq_intCast hsign hmagnitude, Int.cast_mul, Int.cast_ofNat,
    mul_div_cancel_left₀ _ (by norm_num), sub_self, abs_zero]
  norm_num

/-- Far from 1970 binary numbers have few places for the fraction. -/
lemma exponent_ge {y : FiniteBinary} (ht : 2 ^ 33 * 1000 ≤ t.natAbs)
    (hy : |y.value - t / 1000| ≤ 1) : -20 ≤ y.exponent := by
  have hlarge : (2 : ℚ) ^ 33 ≤ |(t : ℚ) / 1000| := by
    have hcast : ((2 ^ 33 * 1000 : ℕ) : ℚ) ≤ t.natAbs := Nat.cast_le.mpr ht
    rw [abs_div, ← Int.cast_abs, Int.abs_eq_natAbs, Int.cast_natCast,
      abs_of_pos (by norm_num : (0 : ℚ) < 1000), le_div_iff₀ (by norm_num)]
    exact_mod_cast hcast
  have hmagnitude : (2 : ℚ) ^ (32 : ℤ) < y.magnitude := by
    have hdistance := abs_sub_abs_le_abs_sub ((t : ℚ) / 1000) y.value
    rw [abs_sub_comm, y.abs_value] at hdistance
    norm_num at hlarge ⊢
    linarith
  have hexponent := two_zpow_lt_iff.mp (hmagnitude.trans y.magnitude_lt)
  omega

/-- The moment of a number of milliseconds is never far away, and it is exact just where there is a
binary number near it. -/
theorem exists_wholeMicros (ht : t.natAbs < 2 ^ 38 * 1000) :
    ∃ y : FiniteBinary, (Number.int t).thousandth? = some (.finite y) ∧
      |y.wholeMicros - t * 1000| ≤ 15 ∧ (y.wholeMicros = t * 1000 ↔ NearBinary t) := by
  obtain ⟨y, hy, herror, hnearest⟩ := exists_thousandth t (by decide) ht
  refine ⟨y, hy, ?_, ?_⟩
  · have hthousandth : |y.value * 1000000 - (t * 1000 : ℤ)| ≤ 15.3 := by
      rw [abs_micros_sub]
      calc |y.value - t / 1000| * 1000000 ≤ 2 ^ ((38 : ℕ) - 54 : ℤ) * 1000000 := by gcongr
        _ ≤ 15.3 := by norm_num
    have hround : |(y.wholeMicros : ℚ) - y.value * 1000000| ≤ 0.6 :=
      y.wholeMicros_error.trans (by norm_num)
    have hsum := abs_sub_le (y.wholeMicros : ℚ) (y.value * 1000000) (t * 1000 : ℤ)
    have hlt : |(y.wholeMicros : ℚ) - (t * 1000 : ℤ)| < 16 := by linarith
    exact Int.lt_add_one_iff.mp (by exact_mod_cast hlt)
  · have hnear : NearBinary t ↔ |y.value - t / 1000| ≤ 1 / 2000000 :=
      ⟨fun ⟨x, hx⟩ => (hnearest x).trans hx, fun h => ⟨y, h⟩⟩
    by_cases hclose : t.natAbs < 2 ^ 33 * 1000
    · obtain ⟨y', hy', -, hmicros⟩ := exists_thousandth_exact hclose
      obtain rfl : y = y' := Binary64.finite.inj (Option.some.inj (hy.symm.trans hy'))
      exact iff_of_true hmicros (nearBinary_of_lt hclose)
    · have hexponent : -20 ≤ y.exponent :=
        exponent_ge (not_lt.mp hclose) (herror.trans (by norm_num))
      rw [hnear, FiniteBinary.wholeMicros_eq_iff hexponent (by omega), abs_micros_sub]
      constructor <;> intro h <;> linarith

/-- The numeral that an integer is written with. -/
def intNumeral (t : ℤ) : NumeralText :=
  ⟨[], if t < 0 then ['-'] else [], Nat.toDigits 10 t.natAbs, none, []⟩

lemma intNumeral_wellFormed (t : ℤ) : (intNumeral t).WellFormed where
  lead c hc := absurd hc List.not_mem_nil
  sign := by
    unfold intNumeral
    dsimp only
    split
    · exact Or.inr (Or.inl rfl)
    · exact Or.inl rfl
  whole c hc := isDecimal_of_isDigit (Nat.isDigit_of_mem_toDigits (by decide) (by decide) hc)
  whole_ne := Nat.toDigits_ne_nil
  fraction digits h := by cases h
  fraction_ne h := by cases h
  trail c hc := absurd hc List.not_mem_nil

lemma chars_intNumeral (t : ℤ) : (intNumeral t).chars = (intText t).toList := by
  unfold intText natText
  by_cases ht : t < 0
  · simp [NumeralText.chars, NumeralText.core, NumeralText.tail, intNumeral, ht]
  · simp [NumeralText.chars, NumeralText.core, NumeralText.tail, intNumeral, ht]

lemma number_intNumeral (t : ℤ) :
    (intNumeral t).number = .ofDecimal (decide (t < 0)) t.natAbs 0 := by
  have hdigits : digitsValue (intNumeral t).digits = t.natAbs := by
    rw [NumeralText.digits, intNumeral, Option.getD_none, List.append_nil,
      map_latin fun c hc => Nat.isDigit_of_mem_toDigits (by decide) (by decide) hc,
      digitsValue_toDigits]
  have hsign : decide ((intNumeral t).sign = ['-']) = decide (t < 0) := by
    unfold intNumeral
    by_cases ht : t < 0 <;> simp [ht]
  rw [NumeralText.number, hdigits, hsign]
  rfl

/-- The text of an integer is read as the binary number nearest to it. -/
lemma dateText_intText (unit : TimeUnit) (t : ℤ) :
    dateText (some (.timestamp unit)) (intText t) =
      timestampMoment unit (.float (.ofDecimal (decide (t < 0)) t.natAbs 0)) := by
  have hformed := intNumeral_wellFormed t
  have hplain : ∀ c ∈ (intNumeral t).chars, isSeparator c = false := by
    intro c hc
    have hcore : c ∈ (intNumeral t).core := by
      rwa [NumeralText.chars, intNumeral, List.nil_append, List.append_nil] at hc
    rw [← Bool.not_eq_true]
    intro hsep
    have hblank := hformed.not_isBlank hcore
    rw [isBlank_of_isSeparator hsep] at hblank
    cases hblank
  unfold dateText timestampText
  dsimp only
  rw [← chars_intNumeral, if_pos hformed.isTimestampText,
    hformed.read? hplain (chars_intNumeral t).symm, number_intNumeral]

/-- The moment so many microseconds after the first midnight of 1970, if it is in the calendar. -/
def Moment.afterEpoch? (micros : ℤ) : Option Moment :=
  ofClock? (epochSeconds * microsPerSecond + micros) (some 0)

lemma Moment.afterEpoch?_range {micros : ℤ} {m : Moment} (h : afterEpoch? micros = some m) :
    -62135596800000000 ≤ micros ∧ micros < 253402300800000000 := by
  have hlimit : (microLimit : ℤ) = 315537897600000000 := by decide +kernel
  have hsecond : (microsPerSecond : ℤ) = 1000000 := rfl
  have hclock := (ofClock?_eq_some h).1
  have hrange := m.inRange
  rw [epochSeconds, hsecond] at hclock
  omega

/-- An integer of seconds is the moment that it says. -/
lemma timestampMoment_seconds (t : ℤ) :
    timestampMoment .seconds (.int t) = .ok (Moment.afterEpoch? (t * 1000000)) := by
  have hclock : (epochSeconds + t) * microsPerSecond + (0 : ℕ) =
      epochSeconds * microsPerSecond + t * 1000000 := by
    have hsecond : (microsPerSecond : ℤ) = 1000000 := rfl
    rw [hsecond]
    ring
  unfold timestampMoment Moment.ofTimestamp? Moment.ofSeconds? Moment.afterEpoch?
  dsimp only
  rw [hclock]

/-- Below `2 ^ 53` the text of an integer is as good as the integer. -/
lemma timestampMoment_numeral (unit : TimeUnit) {t : ℤ} (ht : t.natAbs < twoTo 53) :
    timestampMoment unit (.float (.ofDecimal (decide (t < 0)) t.natAbs 0)) =
      timestampMoment unit (.int t) := by
  cases unit with
  | milliseconds => exact timestampMoment_ofDecimal ht
  | seconds =>
    obtain ⟨x, hx, hsign, hmagnitude⟩ := Binary64.ofDecimal_exact (decide (t < 0)) ht
    have hmicros : x.wholeMicros = t * 1000000 := by
      refine x.wholeMicros_eq_of_near ?_
      rw [FiniteBinary.value_eq_intCast hsign hmagnitude, Int.cast_mul, Int.cast_ofNat, sub_self,
        abs_zero]
      norm_num
    rw [timestampMoment_seconds, hx]
    unfold timestampMoment
    dsimp only
    rw [Moment.ofTimestamp?_finite, hmicros]
    rfl

/-- Fifteen microseconds do not lead out of the calendar where whole seconds are not left. -/
lemma exists_afterEpoch? {t near : ℤ} {m : Moment} (h : Moment.afterEpoch? (t * 1000) = some m)
    (hnear : |near - t * 1000| ≤ 15) (hwhole : 1000 ∣ t → near = t * 1000) :
    ∃ m', Moment.afterEpoch? near = some m' ∧ |(m'.clock : ℤ) - m.clock| ≤ 15 ∧
      (m' = m ↔ near = t * 1000) := by
  obtain ⟨hlow, hhigh⟩ := Moment.afterEpoch?_range h
  obtain ⟨hclock, hoffset⟩ := Moment.ofClock?_eq_some h
  have hbounds := abs_le.mp hnear
  have hsecond : (microsPerSecond : ℤ) = 1000000 := rfl
  cases hm' : Moment.afterEpoch? near with
  | none =>
    have hlimit : (microLimit : ℤ) = 315537897600000000 := by decide +kernel
    have hrange := Moment.ofClock?_eq_none_iff.mp hm'
    rw [epochSeconds, hsecond, hlimit] at hrange
    -- the first moment of the calendar is a whole second
    have hfirst : t ≠ -62135596800000 := by
      rintro rfl
      have hsame := hwhole (by decide)
      omega
    omega
  | some m' =>
    obtain ⟨hclock', hoffset'⟩ := Moment.ofClock?_eq_some hm'
    refine ⟨m', rfl, ?_, ?_⟩
    · have hdistance : (m'.clock : ℤ) - m.clock = near - t * 1000 := by omega
      rwa [hdistance]
    · constructor
      · rintro rfl
        omega
      · rintro rfl
        exact Option.some.inj (hm'.symm.trans h)

namespace Value

variable {t : ℤ} {m : Moment}

/-- An integer of seconds, or its text, is the moment that it says. -/
lemma toMoment_seconds (h : Moment.afterEpoch? (t * 1000000) = some m) :
    (int t).toMoment (some (.timestamp .seconds)) = .ok (some m) ∧
      (str (intText t)).toMoment (some (.timestamp .seconds)) = .ok (some m) := by
  have hrange := Moment.afterEpoch?_range h
  have hlt : t.natAbs < twoTo 53 := by
    have hpower : twoTo 53 = 9007199254740992 := rfl
    omega
  have hint : timestampMoment .seconds (.int t) = .ok (some m) := by
    rw [timestampMoment_seconds, h]
  refine ⟨hint, ?_⟩
  rw [toMoment_str, dateText_intText, timestampMoment_numeral _ hlt, hint]

/-- An integer of milliseconds, or its text, is a moment next to the one that it says. -/
lemma toMoment_milliseconds (h : Moment.afterEpoch? (t * 1000) = some m) :
    ∃ m', (int t).toMoment (some (.timestamp .milliseconds)) = .ok (some m') ∧
      (str (intText t)).toMoment (some (.timestamp .milliseconds)) = .ok (some m') ∧
      |(m'.clock : ℤ) - m.clock| ≤ 15 ∧ (m' = m ↔ NearBinary t) := by
  have hrange := Moment.afterEpoch?_range h
  have hlt : t.natAbs < twoTo 53 := by
    have hpower : twoTo 53 = 9007199254740992 := rfl
    omega
  obtain ⟨y, hy, herror, hexact⟩ := exists_wholeMicros (t := t) (by omega)
  obtain ⟨m', hm', hdistance, hsame⟩ :=
    exists_afterEpoch? h herror fun hdvd => hexact.mpr (nearBinary_of_dvd hlt hdvd)
  have hint : timestampMoment .milliseconds (.int t) = .ok (some m') := by
    rw [timestampMoment_eq hy]
    exact congrArg Except.ok hm'
  refine ⟨m', hint, ?_, hdistance, hsame.trans hexact⟩
  rw [toMoment_str, dateText_intText, timestampMoment_numeral _ hlt, hint]

/-- An integer of seconds within the calendar is the moment that it says. So is an integer of
milliseconds just where a binary number of seconds is within half a microsecond of it: for less than
`2 ^ 33` seconds, and for whole seconds. It is fifteen microseconds away from that moment at most.
The text of the integer is read in the same way. -/
theorem toMoment_timestamp (t : ℤ) :
    (∀ m, Moment.afterEpoch? (t * 1000000) = some m →
      (int t).toMoment (some (.timestamp .seconds)) = .ok (some m) ∧
        (str (intText t)).toMoment (some (.timestamp .seconds)) = .ok (some m)) ∧
      ∀ m, Moment.afterEpoch? (t * 1000) = some m →
        (∃ m', (int t).toMoment none = .ok (some m') ∧
          (int t).toMoment (some (.timestamp .milliseconds)) = .ok (some m') ∧
          (str (intText t)).toMoment (some (.timestamp .milliseconds)) = .ok (some m') ∧
          |(m'.clock : ℤ) - m.clock| ≤ 15 ∧ (m' = m ↔ NearBinary t)) ∧
        (t.natAbs < 2 ^ 33 * 1000 ∨ 1000 ∣ t → NearBinary t) := by
  refine ⟨fun m h => toMoment_seconds h, fun m h => ⟨?_, ?_⟩⟩
  · obtain ⟨m', hint, htext, hdistance, hexact⟩ := toMoment_milliseconds h
    exact ⟨m', hint, hint, htext, hdistance, hexact⟩
  · have hrange := Moment.afterEpoch?_range h
    rintro (hclose | hwhole)
    · exact nearBinary_of_lt hclose
    · refine nearBinary_of_dvd ?_ hwhole
      have hpower : twoTo 53 = 9007199254740992 := rfl
      omega

/-- The last second of the calendar, and in milliseconds an evening of 1978. -/
theorem toMoment_timestamp_last :
    let last : Moment := ⟨315537897599000000, some 0, by decide +kernel⟩
    let evening : Moment := ⟨62388999100799000, some 0, by decide +kernel⟩
    Moment.afterEpoch? (253402300799 * 1000000) = some last ∧
      Moment.afterEpoch? (253402300799 * 1000) = some evening ∧
      (str (intText 253402300799)).toMoment (some (.timestamp .seconds)) = .ok (some last) ∧
      ∃ m', (int 253402300799).toMoment none = .ok (some m') ∧ m' = evening := by
  intro last evening
  have hlast : Moment.afterEpoch? (253402300799 * 1000000) = some last := by decide +kernel
  have hevening : Moment.afterEpoch? (253402300799 * 1000) = some evening := by decide +kernel
  obtain ⟨hseconds, hmilliseconds⟩ := toMoment_timestamp 253402300799
  obtain ⟨⟨m', hm', -, -, -, hsame⟩, hnear⟩ := hmilliseconds evening hevening
  exact ⟨hlast, hevening, (hseconds last hlast).2, m', hm',
    hsame.mpr (hnear (.inl (by decide)))⟩

/-- The last millisecond of the calendar is read seven microseconds early. -/
theorem not_toMoment_timestamp :
    ¬∀ (t : ℤ) (m : Moment), Moment.afterEpoch? (t * 1000) = some m →
      (int t).toMoment none = .ok (some m) := by
  intro hexact
  have hread := hexact 253402300799999 ⟨315537897599999000, some 0, by decide +kernel⟩
    (by decide +kernel)
  have hearly : (int 253402300799999).toMoment none =
      .ok (some ⟨315537897599998993, some 0, by decide +kernel⟩) := by decide +kernel
  rw [hearly] at hread
  exact absurd hread (by decide +kernel)

end Value

end InputGuard

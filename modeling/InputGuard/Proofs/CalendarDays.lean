import InputGuard.Proofs.DateReadings

/-!
# Days of the calendar and their numbers

The number of a day and its year, month and day of the month determine each other. Both ways go
through the days before a year and the days before a month: a day is found between two such numbers.
In the same way a time of day is found in its number of microseconds.
-/

namespace InputGuard

variable {n y m : ℕ}

def daysInYear (y : ℕ) : ℕ := if isLeapYear y then 366 else 365

lemma isLeapYear_iff : isLeapYear y = true ↔ y % 4 = 0 ∧ (y % 100 ≠ 0 ∨ y % 400 = 0) := by
  unfold isLeapYear
  rw [Bool.and_eq_true, Bool.or_eq_true, decide_eq_true_iff, decide_eq_true_iff,
    decide_eq_true_iff]

lemma daysBeforeYear_succ (hy : 0 < y) :
    daysBeforeYear (y + 1) = daysBeforeYear y + daysInYear y := by
  obtain ⟨n, rfl⟩ := Nat.exists_eq_succ_of_ne_zero hy.ne'
  have hle : n / 100 ≤ n / 4 := Nat.div_le_div_left (by decide) (by decide)
  unfold daysBeforeYear daysInYear
  dsimp only
  rw [Nat.add_sub_cancel, Nat.succ_eq_add_one, Nat.add_sub_cancel, Nat.succ_div, Nat.succ_div,
    Nat.succ_div]
  simp only [Nat.dvd_iff_mod_eq_zero, isLeapYear_iff]
  generalize n / 4 = q₄, n / 100 = q₁₀₀, n / 400 = q₄₀₀ at hle
  split_ifs <;> omega

lemma daysBeforeYear_mono {y' : ℕ} (hy : 0 < y) (h : y ≤ y') :
    daysBeforeYear y ≤ daysBeforeYear y' := by
  induction y', h using Nat.le_induction with
  | base => exact le_rfl
  | succ y' h ih =>
    rw [daysBeforeYear_succ (hy.trans_le h)]
    exact ih.trans (Nat.le_add_right _ _)

lemma daysBeforeYear_limit : daysBeforeYear (9999 + 1) = dayLimit := by decide

lemma daysInMonth_le (y m : ℕ) : daysInMonth y m ≤ 31 := by
  unfold daysInMonth
  split_ifs <;> decide

lemma daysBeforeMonth_succ (hm : 0 < m) :
    daysBeforeMonth y (m + 1) = daysBeforeMonth y m + daysInMonth y m := by
  obtain ⟨m, rfl⟩ := Nat.exists_eq_add_of_lt hm
  unfold daysBeforeMonth
  rw [Nat.zero_add, Nat.add_sub_cancel, Nat.add_sub_cancel, List.range_succ, List.map_append,
    List.foldl_append]
  rfl

lemma daysBeforeMonth_one (y : ℕ) : daysBeforeMonth y 1 = 0 := rfl

lemma daysBeforeMonth_mono {m' : ℕ} (hm : 0 < m) (h : m ≤ m') :
    daysBeforeMonth y m ≤ daysBeforeMonth y m' := by
  induction m', h using Nat.le_induction with
  | base => exact le_rfl
  | succ m' h ih =>
    rw [daysBeforeMonth_succ (hm.trans_le h)]
    exact ih.trans (Nat.le_add_right _ _)

/-- The twelve months of a year are the year. -/
lemma daysBeforeMonth_thirteen (y : ℕ) : daysBeforeMonth y 13 = daysInYear y := by
  unfold daysBeforeMonth daysInYear
  by_cases hleap : isLeapYear y = true
  · simp [List.range_succ, daysInMonth, hleap]
  · simp [List.range_succ, daysInMonth, hleap]

/-- Each day of a year is in one of its months. -/
lemma exists_month (hn : n < daysInYear y) :
    ∃ m k, (1 ≤ m ∧ m ≤ 12) ∧ k < daysInMonth y m ∧ daysBeforeMonth y m + k = n := by
  have hsearch : ∀ j ≤ 12, n < daysBeforeMonth y (j + 1) →
      ∃ m k, (1 ≤ m ∧ m ≤ 12) ∧ k < daysInMonth y m ∧ daysBeforeMonth y m + k = n := by
    intro j
    induction j with
    | zero => exact fun _ hlt => absurd hlt (Nat.not_lt_zero n)
    | succ j ih =>
      intro hj hlt
      by_cases hbefore : n < daysBeforeMonth y (j + 1)
      · exact ih (by omega) hbefore
      · rw [daysBeforeMonth_succ (Nat.add_one_pos j)] at hlt
        exact ⟨j + 1, n - daysBeforeMonth y (j + 1), ⟨by omega, hj⟩, by omega, by omega⟩
  exact hsearch 12 le_rfl (daysBeforeMonth_thirteen y ▸ hn)

namespace CivilDate

variable {d : CivilDate} {k : ℕ}

/-- The year of a day starts at the day or before, and the next one starts after it. -/
lemma yearOf_spec (n : ℕ) :
    0 < yearOf n ∧ daysBeforeYear (yearOf n) ≤ n ∧ n < daysBeforeYear (yearOf n + 1) := by
  -- four hundred years have 146097 days, and the leap days are spread over them
  have hmod : 146097 * (n * 400 / 146097) + n * 400 % 146097 = n * 400 := Nat.div_add_mod _ _
  have hlt : n * 400 % 146097 < 146097 := Nat.mod_lt _ (by decide)
  unfold yearOf
  dsimp only
  generalize n * 400 / 146097 = guess at hmod
  split_ifs with hlow hhigh
  · unfold daysBeforeYear at hlow ⊢
    dsimp only at hlow ⊢
    omega
  · unfold daysBeforeYear at hlow hhigh ⊢
    dsimp only at hlow hhigh ⊢
    omega
  · exact ⟨Nat.succ_pos _, not_lt.mp hlow, not_le.mp hhigh⟩

/-- No two years have a day in common. -/
lemma yearOf_eq (hlow : daysBeforeYear y ≤ n) (hhigh : n < daysBeforeYear (y + 1)) :
    yearOf n = y := by
  obtain ⟨hpos, hle, hlt⟩ := yearOf_spec n
  have hnot_lt : ¬yearOf n < y := fun h =>
    absurd ((daysBeforeYear_mono (Nat.add_one_pos _) h).trans hlow) (not_le.mpr hlt)
  have hnot_gt : ¬y < yearOf n := fun h =>
    absurd ((daysBeforeYear_mono (Nat.add_one_pos _) h).trans hle) (not_le.mpr hhigh)
  omega

/-- The search for a month goes from the month `m` on as far as the days are those of later
months. -/
lemma monthFrom_add {m' fuel : ℕ} (hm : 0 < m) (h : m ≤ m') (hfuel : m' ≤ m + fuel)
    (hk : k < daysInMonth y m') :
    monthFrom y fuel m (daysBeforeMonth y m' - daysBeforeMonth y m + k) = (m', k) := by
  induction fuel generalizing m with
  | zero =>
    obtain rfl : m = m' := by omega
    rw [Nat.sub_self, Nat.zero_add]
    rfl
  | succ fuel ih =>
    rw [monthFrom]
    rcases h.eq_or_lt with rfl | hlt
    · rw [Nat.sub_self, Nat.zero_add, if_pos hk]
    · have hstep := daysBeforeMonth_succ (y := y) hm
      have hle := daysBeforeMonth_mono (y := y) (Nat.add_one_pos m) hlt
      have hrest : daysBeforeMonth y m' - daysBeforeMonth y m + k - daysInMonth y m =
          daysBeforeMonth y m' - daysBeforeMonth y (m + 1) + k := by omega
      rw [if_neg (by omega), hrest]
      exact ih (Nat.add_one_pos m) hlt (by omega)

/-- A day of the calendar is found again by its number. -/
theorem ofOrdinal_ordinal (hd : d.IsValid) : ofOrdinal d.ordinal = d := by
  obtain ⟨⟨hyear, -⟩, ⟨hlow, hhigh⟩, hfirst, hlast⟩ := hd
  have hk : d.day - 1 < daysInMonth d.year d.month := by omega
  have hend : daysBeforeMonth d.year d.month + (d.day - 1) < daysInYear d.year := by
    have hmono := daysBeforeMonth_mono (y := d.year) (Nat.add_one_pos d.month)
      (Nat.add_le_add_right hhigh 1)
    rw [daysBeforeMonth_thirteen, daysBeforeMonth_succ hlow] at hmono
    omega
  have hy : yearOf d.ordinal = d.year := by
    refine yearOf_eq ?_ ?_
    · unfold ordinal
      omega
    · rw [daysBeforeYear_succ hyear]
      unfold ordinal
      omega
  have hrest : d.ordinal - daysBeforeYear d.year =
      daysBeforeMonth d.year d.month - daysBeforeMonth d.year 1 + (d.day - 1) := by
    rw [daysBeforeMonth_one]
    unfold ordinal
    omega
  unfold ofOrdinal
  dsimp only
  rw [hy, hrest, monthFrom_add Nat.one_pos hlow (by omega) hk]
  dsimp only
  rw [Nat.sub_add_cancel hfirst]

/-- Each number within the calendar is that of one of its days. -/
theorem exists_ordinal (hn : n < dayLimit) : ∃ d : CivilDate, d.IsValid ∧ d.ordinal = n := by
  obtain ⟨hpos, hlow, hhigh⟩ := yearOf_spec n
  have hyear : yearOf n ≤ 9999 := by
    by_contra hlate
    have hmono := daysBeforeYear_mono (by decide) (not_le.mp hlate)
    rw [daysBeforeYear_limit] at hmono
    omega
  rw [daysBeforeYear_succ hpos] at hhigh
  obtain ⟨m, k, hm, hk, hsum⟩ := exists_month (y := yearOf n)
    (n := n - daysBeforeYear (yearOf n)) (by omega)
  refine ⟨⟨yearOf n, m, k + 1⟩, ⟨⟨hpos, hyear⟩, hm, Nat.succ_pos k, hk⟩, ?_⟩
  unfold ordinal
  dsimp only
  omega

lemma ofOrdinal_isValid (hn : n < dayLimit) : (ofOrdinal n).IsValid := by
  obtain ⟨d, hd, rfl⟩ := exists_ordinal hn
  rwa [ofOrdinal_ordinal hd]

lemma ordinal_ofOrdinal (hn : n < dayLimit) : (ofOrdinal n).ordinal = n := by
  obtain ⟨d, hd, rfl⟩ := exists_ordinal hn
  rw [ofOrdinal_ordinal hd]

lemma ordinal_lt (hd : d.IsValid) : d.ordinal < dayLimit := by
  obtain ⟨⟨hyear, hlate⟩, ⟨hlow, hhigh⟩, hfirst, hlast⟩ := hd
  have hmonth := daysBeforeMonth_mono (y := d.year) (Nat.add_one_pos d.month)
    (Nat.add_le_add_right hhigh 1)
  rw [daysBeforeMonth_thirteen, daysBeforeMonth_succ hlow] at hmonth
  have hnext := daysBeforeYear_mono (Nat.add_one_pos _) (Nat.add_le_add_right hlate 1)
  rw [daysBeforeYear_succ hyear, daysBeforeYear_limit] at hnext
  unfold ordinal
  omega

end CivilDate

namespace Day

variable {d : CivilDate} {day : Day}

lemma ofDate?_eq_some_iff : ofDate? d = some day ↔ d.IsValid ∧ day.date = d := by
  unfold ofDate? ofNumber? date
  by_cases hd : d.IsValid
  · rw [if_pos hd, dif_pos (CivilDate.ordinal_lt hd)]
    constructor
    · intro h
      obtain rfl := Option.some.inj h
      exact ⟨hd, CivilDate.ofOrdinal_ordinal hd⟩
    · rintro ⟨-, rfl⟩
      obtain ⟨number, hnumber⟩ := day
      simp only [CivilDate.ordinal_ofOrdinal hnumber]
  · rw [if_neg hd]
    exact iff_of_false nofun fun h => hd h.1

lemma ofDate?_eq_none_iff : ofDate? d = none ↔ ¬d.IsValid := by
  unfold ofDate? ofNumber?
  by_cases hd : d.IsValid
  · rw [if_pos hd, dif_pos (CivilDate.ordinal_lt hd)]
    exact iff_of_false nofun (not_not_intro hd)
  · rw [if_neg hd]
    exact iff_of_true rfl hd

end Day

namespace TimeOfDay

variable {n : ℕ}

lemma isValid_iff {t : TimeOfDay} : t.isValid = true ↔
    t.hour < 24 ∧ t.minute < 60 ∧ t.second < 60 ∧ t.micro < microsPerSecond := by
  unfold isValid
  rw [Bool.and_eq_true, Bool.and_eq_true, Bool.and_eq_true, decide_eq_true_iff, decide_eq_true_iff,
    decide_eq_true_iff, decide_eq_true_iff, and_assoc, and_assoc]

lemma ofMicros_isValid (hn : n < microsPerDay) : (ofMicros n).isValid = true := by
  rw [isValid_iff]
  unfold ofMicros
  unfold microsPerDay microsPerSecond at *
  dsimp only
  omega

lemma micros_ofMicros (n : ℕ) : (ofMicros n).micros = n := by
  unfold micros ofMicros microsPerSecond
  dsimp only
  omega

end TimeOfDay

namespace Moment

lemma ofDay?_eq_some_iff {d : Day} {t : TimeOfDay} {offset : Option ℤ} {m : Moment} :
    ofDay? d t offset = some m ↔ t.isValid = true ∧
      m.clock = d.number * microsPerDay + t.micros ∧ m.offset = offset := by
  unfold ofDay?
  by_cases ht : t.isValid = true
  · rw [if_pos ht]
    constructor
    · intro h
      obtain ⟨hclock, hoffset⟩ := ofClock?_eq_some h
      exact ⟨ht, Nat.cast_injective hclock, hoffset⟩
    · rintro ⟨-, hclock, rfl⟩
      obtain ⟨clock, offset, hrange⟩ := m
      dsimp only at hclock
      subst hclock
      unfold ofClock?
      rw [dif_pos ⟨Nat.cast_nonneg _, hrange⟩]
      rfl
  · rw [if_neg ht]
    exact iff_of_false nofun fun h => ht h.1

/-- A moment is made of its day and its time of day. -/
lemma exists_ofDay? (m : Moment) :
    ∃ day, Day.ofDate? m.day = some day ∧ ofDay? day m.time m.offset = some m := by
  have hpos : 0 < microsPerDay := by decide
  have hday : m.clock / microsPerDay < dayLimit := Nat.div_lt_of_lt_mul (by
    rw [Nat.mul_comm]
    exact m.inRange)
  refine ⟨⟨m.clock / microsPerDay, hday⟩, ?_, ?_⟩
  · exact Day.ofDate?_eq_some_iff.mpr ⟨CivilDate.ofOrdinal_isValid hday, rfl⟩
  · refine ofDay?_eq_some_iff.mpr ⟨TimeOfDay.ofMicros_isValid (Nat.mod_lt _ hpos), ?_, rfl⟩
    rw [time, TimeOfDay.micros_ofMicros]
    exact (Nat.div_add_mod' _ _).symm

/-- Midnight of a day is on that day. -/
lemma day_ofDay (d : Day) : (ofDay d).day = d.date := by
  rw [day, Day.date]
  exact congrArg CivilDate.ofOrdinal (Nat.mul_div_cancel _ (by decide))

lemma time_ofDay (d : Day) : (ofDay d).time = .midnight := by
  rw [time]
  have hzero : (ofDay d).clock % microsPerDay = 0 := Nat.mul_mod_left _ _
  rw [hzero]
  rfl

/-- What a universal clock shows of a moment. -/
lemma universal_of_clock {m u : Moment} (hclock : m.universalClock = u.clock)
    (hoffset : u.offset = some 0) : m.universal = .ok u := by
  obtain ⟨clock, offset, hrange⟩ := u
  dsimp only at hclock hoffset
  subst hoffset
  unfold universal toUniversal?
  rw [hclock]
  unfold ofClock?
  rw [dif_pos ⟨Nat.cast_nonneg _, hrange⟩]
  rfl

/-- A moment on a universal clock is read off it as it stands. -/
lemma universal_of_offset {m : Moment} (h : m.offset = some 0) : m.universal = .ok m := by
  refine universal_of_clock ?_ h
  rw [universalClock, h, Option.getD_some, sub_zero]

/-- Midnight without an offset is taken to be that of a universal clock. -/
lemma exists_midnight (d : Day) :
    ∃ m, ofDay? d .midnight none = some m ∧ m.universal = .ok (ofDay d) := by
  have hzero : TimeOfDay.midnight.micros = 0 := by decide
  refine ⟨⟨(ofDay d).clock, none, (ofDay d).inRange⟩, ofDay?_eq_some_iff.mpr ⟨rfl, ?_, rfl⟩,
    universal_of_clock (sub_zero _) rfl⟩
  rw [hzero, Nat.add_zero]
  exact rfl

end Moment

end InputGuard

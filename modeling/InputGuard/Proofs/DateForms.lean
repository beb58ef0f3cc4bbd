import InputGuard.Proofs.DateTexts

/-!
# Two forms of dates

A text that the rule for dates accepts is read as a date with and without the format for ISO 8601
texts, and both times as the same moment. The one exception is an offset of sixty minutes or more
after its hours: the rule and the reading take it as it stands, but the form refuses it.
-/

namespace InputGuard

open Unicode Reading

section Parts

variable {s rest : List Char} {u : Unit}

lemma exists_zoneText (h : (u, rest) ∈ IsoForm.maybe IsoForm.plainZone s) :
    ∃ zone : ZoneText, zone.WellFormed ∧ s = zone.chars ++ rest := by
  rcases IsoForm.mem_maybe.mp h with hzone | rfl
  · rcases mem_either.mp hzone with hzulu | hsigned
    · exact ⟨.zulu, trivial, IsoForm.mem_skip.mp hzulu⟩
    · obtain ⟨sign, s₁, hchar, h₁⟩ := mem_bind.mp hsigned
      obtain ⟨rfl, hsign⟩ := mem_charThat.mp hchar
      rw [Bool.or_eq_true, decide_eq_true_iff, decide_eq_true_iff] at hsign
      obtain ⟨hour, s₂, rfl, hlength, hhour, h₂⟩ := mem_exactly_bind.mp h₁
      rcases IsoForm.mem_maybe.mp h₂ with hminutes | rfl
      · obtain ⟨v, s₃, hcolon, h₃⟩ := mem_bind.mp hminutes
        obtain ⟨minute, rfl, hminute⟩ := mem_exactly.mp h₃
        rcases IsoForm.mem_maybe.mp hcolon with hcolon | hbare
        · refine ⟨.minutes sign hour true minute, ⟨hsign, ⟨hlength, hhour⟩, hminute⟩, ?_⟩
          rw [IsoForm.mem_skip.mp hcolon]
          simp [ZoneText.chars]
        · refine ⟨.minutes sign hour false minute, ⟨hsign, ⟨hlength, hhour⟩, hminute⟩, ?_⟩
          rw [← hbare]
          simp [ZoneText.chars]
      · exact ⟨.hours sign hour, ⟨hsign, hlength, hhour⟩, rfl⟩
  · exact ⟨.absent, trivial, rfl⟩

lemma exists_secondsText (h : (u, rest) ∈ IsoForm.maybe (do
        IsoForm.skip ':'
        exactly isDecimal 2
        IsoForm.maybe do
          IsoForm.skip '.'
          oneOrMore isDecimal) s) :
    ∃ seconds : SecondsText, seconds.WellFormed ∧ s = seconds.chars ++ rest := by
  rcases IsoForm.mem_maybe.mp h with hseconds | rfl
  · obtain ⟨s₁, rfl, h₁⟩ := IsoForm.mem_skip_bind.mp hseconds
    obtain ⟨second, s₂, rfl, hlength, hsecond, h₂⟩ := mem_exactly_bind.mp h₁
    rcases IsoForm.mem_maybe.mp h₂ with hfraction | rfl
    · obtain ⟨s₃, rfl, h₃⟩ := IsoForm.mem_skip_bind.mp hfraction
      obtain ⟨fraction, rfl, hne, hdigits⟩ := mem_oneOrMore.mp h₃
      refine ⟨.fractional second fraction, ⟨⟨hlength, hsecond⟩, hne, hdigits⟩, ?_⟩
      simp [SecondsText.chars]
    · exact ⟨.whole second, ⟨hlength, hsecond⟩, rfl⟩
  · exact ⟨.absent, trivial, rfl⟩

lemma exists_timeText (h : (u, rest) ∈ IsoForm.plainTime s) :
    ∃ (t : TimeText) (zone : ZoneText), t.WellFormed ∧ zone.WellFormed ∧
      s = 'T' :: (t.chars ++ zone.chars) ++ rest := by
  obtain ⟨s₁, rfl, h₁⟩ := IsoForm.mem_skip_bind.mp h
  obtain ⟨hour, s₂, rfl, hhour, hhourDigits, h₂⟩ := mem_exactly_bind.mp h₁
  obtain ⟨s₃, rfl, h₃⟩ := IsoForm.mem_skip_bind.mp h₂
  obtain ⟨minute, s₄, rfl, hminute, hminuteDigits, h₄⟩ := mem_exactly_bind.mp h₃
  obtain ⟨v, s₅, hmaybe, h₅⟩ := mem_bind.mp h₄
  obtain ⟨seconds, hseconds, rfl⟩ := exists_secondsText hmaybe
  obtain ⟨zone, hzone, rfl⟩ := exists_zoneText h₅
  refine ⟨⟨hour, minute, seconds⟩, zone,
    ⟨⟨hhour, hhourDigits⟩, ⟨hminute, hminuteDigits⟩, hseconds⟩, hzone, ?_⟩
  simp [TimeText.chars]

/-- A text of the form is put together from numerals, with or without a final line feed. -/
theorem exists_dateText (h : isDateText s = true) :
    ∃ t : DateText, t.WellFormed ∧ (s = t.chars ∨ s = t.chars ++ ['\n']) := by
  obtain ⟨u, last, h₀, hlast⟩ := accepts_iff.mp h
  obtain ⟨year, s₁, rfl, hyear, hyearDigits, h₁⟩ := mem_exactly_bind.mp h₀
  obtain ⟨s₂, rfl, h₂⟩ := IsoForm.mem_skip_bind.mp h₁
  obtain ⟨month, s₃, rfl, hmonth, hmonthDigits, h₃⟩ := mem_exactly_bind.mp h₂
  obtain ⟨s₄, rfl, h₄⟩ := IsoForm.mem_skip_bind.mp h₃
  obtain ⟨date, s₅, rfl, hdate, hdateDigits, h₅⟩ := mem_exactly_bind.mp h₄
  obtain ⟨time, htime, rfl⟩ : ∃ time, (∀ clock zone, time = some (clock, zone) →
      clock.WellFormed ∧ zone.WellFormed) ∧ s₅ = DateText.timeChars time ++ last := by
    rcases IsoForm.mem_maybe.mp h₅ with htime | rfl
    · obtain ⟨clock, zone, hclock, hzone, rfl⟩ := exists_timeText htime
      refine ⟨some (clock, zone), ?_, rfl⟩
      rintro clock' zone' heq
      cases heq
      exact ⟨hclock, hzone⟩
    · exact ⟨none, nofun, rfl⟩
  refine ⟨⟨year, month, date, time⟩,
    ⟨⟨hyear, hyearDigits⟩, ⟨hmonth, hmonthDigits⟩, ⟨hdate, hdateDigits⟩, htime⟩, ?_⟩
  rcases hlast with rfl | rfl
  · refine Or.inl ?_
    simp [DateText.chars]
  · refine Or.inr ?_
    simp [DateText.chars]

end Parts

/-- Two digits of the basic Latin block that denote a number. -/
structure IsPair (cs : List Char) (n : ℕ) : Prop where
  length : cs.length = 2
  digits : ∀ c ∈ cs, c.isDigit = true
  value : digitsValue cs = n

namespace IsPair

variable {cs rest : List Char} {n : ℕ} {u : Unit}

lemma exists_digits (h : IsPair cs n) : ∃ a b : Char, cs = [a, b] ∧ (48 ≤ a.toNat ∧ a.toNat ≤ 57) ∧
    (48 ≤ b.toNat ∧ b.toNat ≤ 57) ∧ n = 10 * (a.toNat - 48) + (b.toNat - 48) := by
  obtain ⟨a, b, rfl⟩ := List.length_eq_two.mp h.length
  obtain ⟨ha, hb⟩ := List.forall_mem_cons.mp h.digits
  refine ⟨a, b, rfl, isDigit_iff.mp ha, isDigit_iff.mp (hb b List.mem_cons_self), ?_⟩
  rw [← h.value, digitsValue_cons, digitsValue_cons]
  simp [digitsValue]
  ring

lemma mem_digitIn {lo hi c : Char} (hlo : lo.toNat ≤ c.toNat) (hhi : c.toNat ≤ hi.toNat) :
    (u, rest) ∈ IsoForm.digitIn lo hi (c :: rest) := by
  refine mem_bind.mpr ⟨c, rest, mem_charThat.mpr ⟨rfl, ?_⟩, mem_pure.mpr ⟨rfl, rfl⟩⟩
  rw [Bool.and_eq_true, decide_eq_true_iff, decide_eq_true_iff]
  exact ⟨hlo, hhi⟩

lemma mem_digit {c : Char} (hc : 48 ≤ c.toNat ∧ c.toNat ≤ 57) :
    (u, rest) ∈ IsoForm.digit (c :: rest) :=
  mem_bind.mpr ⟨c, rest, mem_charThat.mpr ⟨rfl, isDecimal_of_isDigit (isDigit_iff.mpr hc)⟩,
    mem_pure.mpr ⟨rfl, rfl⟩⟩

lemma mem_skip_of_toNat {c d : Char} (h : d.toNat = c.toNat) :
    (u, rest) ∈ IsoForm.skip c (d :: rest) :=
  IsoForm.mem_skip.mpr (by rw [Char.toNat_inj.mp h])

lemma mem_month (h : IsPair cs n) (hn : 1 ≤ n ∧ n ≤ 12) :
    (u, rest) ∈ IsoForm.month (cs ++ rest) := by
  obtain ⟨a, b, rfl, ha, hb, hvalue⟩ := h.exists_digits
  rcases (by omega : a.toNat = 48 ∧ 49 ≤ b.toNat ∨ a.toNat = 49 ∧ b.toNat ≤ 50) with
    ⟨hzero, hpos⟩ | ⟨hone, htwo⟩
  · exact mem_either.mpr (Or.inl (mem_bind.mpr ⟨(), b :: rest, mem_skip_of_toNat hzero,
      mem_digitIn hpos hb.2⟩))
  · exact mem_either.mpr (Or.inr (mem_bind.mpr ⟨(), b :: rest, mem_skip_of_toNat hone,
      mem_digitIn hb.1 htwo⟩))

lemma mem_dayOfMonth (h : IsPair cs n) (hn : 1 ≤ n ∧ n ≤ 31) :
    (u, rest) ∈ IsoForm.dayOfMonth (cs ++ rest) := by
  obtain ⟨a, b, rfl, ha, hb, hvalue⟩ := h.exists_digits
  rcases (by omega : 49 ≤ a.toNat ∧ a.toNat ≤ 50 ∨ a.toNat = 48 ∧ 49 ≤ b.toNat ∨
    a.toNat = 51 ∧ b.toNat ≤ 49) with ⟨hlow, hhigh⟩ | ⟨hzero, hpos⟩ | ⟨hthree, hone⟩
  · exact mem_either.mpr (Or.inl (mem_bind.mpr ⟨(), b :: rest, mem_digitIn hlow hhigh,
      mem_digit hb⟩))
  · exact mem_either.mpr (Or.inr (mem_either.mpr (Or.inl (mem_bind.mpr
      ⟨(), b :: rest, mem_skip_of_toNat hzero, mem_digitIn hpos hb.2⟩))))
  · exact mem_either.mpr (Or.inr (mem_either.mpr (Or.inr (mem_bind.mpr
      ⟨(), b :: rest, mem_skip_of_toNat hthree, mem_digitIn hb.1 hone⟩))))

lemma mem_hour (h : IsPair cs n) (hn : n < 24) : (u, rest) ∈ IsoForm.hour (cs ++ rest) := by
  obtain ⟨a, b, rfl, ha, hb, hvalue⟩ := h.exists_digits
  rcases (by omega : a.toNat ≤ 49 ∨ a.toNat = 50 ∧ b.toNat ≤ 51) with hlow | ⟨htwo, hthree⟩
  · exact mem_either.mpr (Or.inl (mem_bind.mpr ⟨(), b :: rest, mem_digitIn ha.1 hlow,
      mem_digit hb⟩))
  · exact mem_either.mpr (Or.inr (mem_bind.mpr ⟨(), b :: rest, mem_skip_of_toNat htwo,
      mem_digitIn hb.1 hthree⟩))

lemma mem_sixty (h : IsPair cs n) (hn : n < 60) : (u, rest) ∈ IsoForm.sixty (cs ++ rest) := by
  obtain ⟨a, b, rfl, ha, hb, hvalue⟩ := h.exists_digits
  have hfive : a.toNat ≤ 53 := by omega
  exact mem_bind.mpr ⟨(), b :: rest, mem_digitIn ha.1 hfive, mem_digit hb⟩

/-- From sixty on two digits are no minute. -/
lemma lt_of_mem_sixty (h : IsPair cs n) (hmem : (u, rest) ∈ IsoForm.sixty cs) : n < 60 := by
  obtain ⟨a, b, rfl, ha, hb, hvalue⟩ := h.exists_digits
  obtain ⟨v, mid, hmid, -⟩ := mem_bind.mp hmem
  obtain ⟨c, mid', hc, -⟩ := mem_bind.mp hmid
  obtain ⟨hs, hc⟩ := mem_charThat.mp hc
  obtain ⟨rfl, -⟩ := List.cons.inj hs
  rw [Bool.and_eq_true, decide_eq_true_iff, decide_eq_true_iff] at hc
  have hfive : a.toNat ≤ 53 := hc.2
  omega

end IsPair

section Members

variable {rest : List Char} {u : Unit}

lemma isPair {cs : List Char} (h : IsNumeral 2 cs) (hdigits : ∀ c ∈ cs, c.isDigit = true) :
    IsPair cs (digitsValue cs) := ⟨h.1, hdigits, rfl⟩

lemma mem_zone {zone : ZoneText} (h : zone.WellFormed) (hreadable : zone.Readable)
    (hminute : zone.time.minute < 60) :
    (u, []) ∈ IsoForm.maybe IsoForm.zone zone.chars := by
  have hsigned : ∀ {sign : Char} {hour s : List Char}, (sign = '+' ∨ sign = '-') →
      (u, s) ∈ IsoForm.hour (hour ++ s) → (u, []) ∈ IsoForm.maybe (do
        IsoForm.maybe (IsoForm.skip ':')
        IsoForm.sixty) s → (u, []) ∈ IsoForm.maybe IsoForm.zone (sign :: (hour ++ s)) := by
    intro sign hour s hsign hhour hmaybe
    refine IsoForm.mem_maybe.mpr (Or.inl (mem_either.mpr (Or.inr (mem_bind.mpr
      ⟨sign, hour ++ s, mem_charThat.mpr ⟨rfl, ?_⟩, mem_bind.mpr ⟨u, s, hhour, hmaybe⟩⟩))))
    rcases hsign with rfl | rfl <;> rfl
  obtain ⟨hdigits, hhour⟩ := hreadable
  cases zone with
  | absent => exact IsoForm.mem_maybe.mpr (Or.inr rfl)
  | zulu =>
    exact IsoForm.mem_maybe.mpr (Or.inl (mem_either.mpr (Or.inl (IsoForm.mem_skip.mpr rfl))))
  | hours sign hour =>
    have hmem := hsigned (s := []) h.1 ((isPair h.2 hdigits).mem_hour hhour)
      (IsoForm.mem_maybe.mpr (Or.inr rfl))
    rwa [List.append_nil] at hmem
  | minutes sign hour colon minute =>
    obtain ⟨hhourDigits, hminuteDigits⟩ := List.forall_mem_append.mp hdigits
    refine hsigned h.1 ((isPair h.2.1 hhourDigits).mem_hour hhour)
      (IsoForm.mem_maybe.mpr (Or.inl ?_))
    have hsixty : (u, []) ∈ IsoForm.sixty (minute ++ []) :=
      (isPair h.2.2 hminuteDigits).mem_sixty hminute
    rw [List.append_nil] at hsixty
    refine mem_bind.mpr ⟨(), minute, IsoForm.mem_maybe.mpr ?_, hsixty⟩
    cases colon with
    | true => exact Or.inl (IsoForm.mem_skip.mpr rfl)
    | false => exact Or.inr rfl

lemma mem_seconds {t : TimeText} (h : t.WellFormed) (hdigits : ∀ c ∈ t.digits, c.isDigit = true)
    (hvalid : t.value.isValid = true) : (u, rest) ∈ IsoForm.maybe (do
      IsoForm.skip ':'
      IsoForm.sixty
      IsoForm.maybe IsoForm.fraction) (t.seconds.chars ++ rest) := by
  obtain ⟨hour, minute, seconds⟩ := t
  have hseconds := h.seconds
  have hsecondsDigits := (List.forall_mem_append.mp (List.forall_mem_append.mp hdigits).2).2
  have hsecond := (TimeOfDay.isValid_iff.mp hvalid).2.2.1
  dsimp only at hseconds hsecondsDigits hsecond
  cases seconds with
  | absent => exact IsoForm.mem_maybe.mpr (Or.inr rfl)
  | whole second =>
    refine IsoForm.mem_maybe.mpr (Or.inl (IsoForm.mem_skip_bind.mpr ⟨second ++ rest, rfl, ?_⟩))
    exact mem_bind.mpr ⟨(), rest, (isPair hseconds hsecondsDigits).mem_sixty hsecond,
      IsoForm.mem_maybe.mpr (Or.inr rfl)⟩
  | fractional second fraction =>
    obtain ⟨hsecondDigits, -⟩ := List.forall_mem_append.mp hsecondsDigits
    have hassoc : second ++ '.' :: fraction ++ rest = second ++ '.' :: (fraction ++ rest) := by simp
    refine IsoForm.mem_maybe.mpr (Or.inl (IsoForm.mem_skip_bind.mpr
      ⟨second ++ '.' :: (fraction ++ rest), congrArg (':' :: ·) hassoc, ?_⟩))
    refine mem_bind.mpr ⟨(), '.' :: (fraction ++ rest),
      (isPair hseconds.1 hsecondDigits).mem_sixty hsecond, IsoForm.mem_maybe.mpr (Or.inl ?_)⟩
    exact mem_bind.mpr ⟨'.', fraction ++ rest, mem_charThat.mpr ⟨rfl, rfl⟩,
      mem_oneOrMore.mpr ⟨fraction, rfl, hseconds.2⟩⟩

lemma mem_timePart {t : TimeText} {zone : ZoneText} (h : t.WellFormed)
    (hdigits : ∀ c ∈ t.digits, c.isDigit = true) (hvalid : t.value.isValid = true)
    (hzone : (u, []) ∈ IsoForm.maybe IsoForm.zone zone.chars) :
    (u, []) ∈ IsoForm.timePart ('T' :: (t.chars ++ zone.chars)) := by
  obtain ⟨hhour, hminute, -⟩ := TimeOfDay.isValid_iff.mp hvalid
  obtain ⟨hhourDigits, hrest⟩ := List.forall_mem_append.mp hdigits
  obtain ⟨hminuteDigits, -⟩ := List.forall_mem_append.mp hrest
  have hvalue : t.value.hour = digitsValue t.hour ∧ t.value.minute = digitsValue t.minute := by
    unfold TimeText.value
    cases t.seconds <;> exact ⟨rfl, rfl⟩
  rw [hvalue.1] at hhour
  rw [hvalue.2] at hminute
  have hchars : t.chars ++ zone.chars =
      t.hour ++ ':' :: (t.minute ++ (t.seconds.chars ++ zone.chars)) := by simp [TimeText.chars]
  have hclock : (some true, t.seconds.chars ++ zone.chars) ∈
      IsoForm.hourMinute (t.chars ++ zone.chars) := by
    rw [hchars]
    refine mem_either.mpr (Or.inl (mem_bind.mpr ⟨(), _, (isPair h.hour hhourDigits).mem_hour hhour,
      mem_either.mpr (Or.inl (mem_bind.mpr ⟨some ':', _, mem_optional.mpr (Or.inl
        ⟨':', rfl, mem_char.mpr ⟨rfl, rfl⟩⟩), ?_⟩))⟩))
    exact mem_bind.mpr ⟨(), _, (isPair h.minute hminuteDigits).mem_sixty hminute,
      mem_pure.mpr ⟨rfl, rfl⟩⟩
  refine mem_bind.mpr ⟨'T', _, mem_charThat.mpr ⟨rfl, rfl⟩, mem_bind.mpr ⟨some true, _, hclock, ?_⟩⟩
  refine mem_bind.mpr ⟨(), _, IsoForm.mem_maybe.mpr (Or.inr rfl), ?_⟩
  exact mem_bind.mpr ⟨(), zone.chars, mem_seconds h hdigits hvalid, hzone⟩

lemma twoDigitsEndWord_dash (s : List Char) : IsoForm.twoDigitsEndWord ('-' :: s) = false := by
  cases s with
  | nil => rfl
  | cons c s => rfl

/-- A time with a colon is not without separators. -/
lemma bareTime_chars {t : TimeText} (h : t.WellFormed) (s : List Char) :
    IsoForm.bareTime ('T' :: (t.chars ++ s)) = false := by
  have hchars : t.chars ++ s = t.hour ++ ':' :: (t.minute ++ t.seconds.chars ++ s) := by
    simp [TimeText.chars]
  have hafter : (t.chars ++ s).dropWhile isDecimal =
      ':' :: (t.minute ++ t.seconds.chars ++ s) := by
    rw [hchars, List.dropWhile_append_of_pos h.hour.2]
    rfl
  obtain ⟨a, b, hhour⟩ := List.length_eq_two.mp h.hour.1
  rw [IsoForm.bareTime, hafter, hchars, hhour]
  simp

/-- A date with a time of day that exists has the form, if the minutes of its offset do. -/
theorem isIsoForm_chars {t : DateText} (h : t.WellFormed) (hreadable : t.Readable)
    (hminute : t.zone.time.minute < 60) : isIsoForm t.chars = true := by
  obtain ⟨hdigits, ⟨-, hmonth, hlow, hdate⟩, htime⟩ := hreadable
  obtain ⟨-, hrest⟩ := List.forall_mem_append.mp hdigits
  obtain ⟨hmonthDigits, hdateDigits⟩ := List.forall_mem_append.mp hrest
  have hyear : ((), '-' :: (t.month ++ '-' :: (t.date ++ DateText.timeChars t.time))) ∈
      IsoForm.year t.chars := by
    refine mem_bind.mpr ⟨(), t.chars, IsoForm.mem_maybe.mpr (Or.inr rfl), ?_⟩
    refine mem_exactly_bind.mpr ⟨t.year, _, rfl, h.year.1, h.year.2, mem_refuse.mpr
      ⟨twoDigitsEndWord_dash _, rfl⟩⟩
  have hday : ((), DateText.timeChars t.time) ∈ IsoForm.dayPart
      ('-' :: (t.month ++ '-' :: (t.date ++ DateText.timeChars t.time))) := by
    refine mem_bind.mpr ⟨some '-', _, mem_optional.mpr (Or.inl
      ⟨'-', rfl, mem_char.mpr ⟨rfl, rfl⟩⟩), mem_either.mpr (Or.inl ?_)⟩
    refine mem_bind.mpr ⟨(), _, (isPair h.month hmonthDigits).mem_month hmonth,
      IsoForm.mem_maybe.mpr (Or.inl (IsoForm.mem_skip_bind.mpr ⟨_, rfl, ?_⟩))⟩
    exact (isPair h.date hdateDigits).mem_dayOfMonth ⟨hlow, hdate.trans (daysInMonth_le _ _)⟩
  have hend : IsoForm.bareTime (DateText.timeChars t.time) = false ∧
      ((), []) ∈ IsoForm.maybe IsoForm.timePart (DateText.timeChars t.time) := by
    cases hpart : t.time with
    | none => exact ⟨rfl, IsoForm.mem_maybe.mpr (Or.inr rfl)⟩
    | some part =>
      obtain ⟨hclock, hzone⟩ := h.time part.1 part.2 hpart
      obtain ⟨hclockDigits, hvalid, hzoneReadable⟩ := htime part.1 part.2 hpart
      have hzoneMinute : part.2.time.minute < 60 := by
        rw [DateText.zone, hpart] at hminute
        exact hminute
      exact ⟨bareTime_chars hclock _, IsoForm.mem_maybe.mpr (Or.inl (mem_timePart hclock
        hclockDigits hvalid (mem_zone hzone hzoneReadable hzoneMinute)))⟩
  refine accepts_iff.mpr ⟨(), [], mem_bind.mpr ⟨(), _, hyear, IsoForm.mem_maybe.mpr (Or.inl ?_)⟩,
    Or.inl rfl⟩
  exact mem_bind.mpr ⟨(), _, hday, mem_bind.mpr ⟨(), _, mem_refuse.mpr ⟨hend.1, rfl⟩, hend.2⟩⟩

end Members

section Fronts

variable {p : Char → Prop}

lemma reads_skip {c : Char} (hc : p c) : (IsoForm.skip c).Reads p :=
  .bind (.charThat fun _ h => (beq_iff_eq.mp h) ▸ hc) fun _ => .pure _

lemma reads_maybe {r : Reading Unit} (hr : r.Reads p) : (IsoForm.maybe r).Reads p :=
  .bind (.optional hr) fun _ => .pure _

variable (hp : ∀ c, isDecimal c = true → p c)

include hp

lemma reads_digitIn {lo hi : Char} (hlo : '0' ≤ lo) (hhi : hi ≤ '9') :
    (IsoForm.digitIn lo hi).Reads p := by
  refine .bind (.charThat fun c hc => hp c (isDecimal_of_isDigit ?_)) fun _ => .pure _
  rw [Bool.and_eq_true, decide_eq_true_iff, decide_eq_true_iff] at hc
  rw [Char.isDigit, Bool.and_eq_true, decide_eq_true_iff, decide_eq_true_iff]
  exact ⟨Char.le_trans hlo hc.1, Char.le_trans hc.2 hhi⟩

lemma reads_digit : IsoForm.digit.Reads p := .bind (.charThat hp) fun _ => .pure _

lemma reads_sixty : IsoForm.sixty.Reads p :=
  (reads_digitIn hp (by decide) (by decide)).bind fun _ => reads_digit hp

lemma reads_hour : IsoForm.hour.Reads p :=
  .either ((reads_digitIn hp (by decide) (by decide)).bind fun _ => reads_digit hp)
    ((reads_skip (hp _ (by decide))).bind fun _ => reads_digitIn hp (by decide) (by decide))

lemma reads_hourMinute (hcolon : p ':') : IsoForm.hourMinute.Reads p := by
  refine .either ((reads_hour hp).bind fun _ => .either ?_ (.pure _)) ?_
  · exact (Reads.optional (.charThat fun _ h => (beq_iff_eq.mp h) ▸ hcolon)).bind fun _ =>
      (reads_sixty hp).bind fun _ => .pure _
  · have hzero : (IsoForm.skip '0').Reads p := reads_skip (hp _ (by decide))
    exact (reads_skip (hp _ (by decide))).bind fun _ => (reads_skip (hp _ (by decide))).bind
      fun _ => (reads_maybe (reads_skip hcolon)).bind fun _ => hzero.bind fun _ =>
        hzero.bind fun _ => .pure _

lemma reads_fraction (hpoint : p '.') (hcomma : p ',') : IsoForm.fraction.Reads p := by
  refine .bind (.charThat fun c hc => ?_) fun _ => .oneOrMore hp
  rw [Bool.or_eq_true, decide_eq_true_iff, decide_eq_true_iff] at hc
  rcases hc with rfl | rfl
  · exact hpoint
  · exact hcomma

lemma reads_month : IsoForm.month.Reads p :=
  .either ((reads_skip (hp _ (by decide))).bind fun _ => reads_digitIn hp (by decide) (by decide))
    ((reads_skip (hp _ (by decide))).bind fun _ => reads_digitIn hp (by decide) (by decide))

lemma reads_dayOfMonth : IsoForm.dayOfMonth.Reads p :=
  .either ((reads_digitIn hp (by decide) (by decide)).bind fun _ => reads_digit hp)
    (.either
      ((reads_skip (hp _ (by decide))).bind fun _ => reads_digitIn hp (by decide) (by decide))
      ((reads_skip (hp _ (by decide))).bind fun _ => reads_digitIn hp (by decide) (by decide)))

lemma reads_week (hdash : p '-') (hweek : p 'W') : IsoForm.week.Reads p :=
  (reads_skip hweek).bind fun _ => .bind
    (.either ((reads_digitIn hp (by decide) (by decide)).bind fun _ => reads_digit hp)
      ((reads_skip (hp _ (by decide))).bind fun _ => reads_digitIn hp (by decide) (by decide)))
    fun _ => reads_maybe ((reads_maybe (reads_skip hdash)).bind
      fun _ => reads_digitIn hp (by decide) (by decide))

lemma reads_dayOfYear : IsoForm.dayOfYear.Reads p := by
  have hdigitIn : ∀ {lo hi : Char}, '0' ≤ lo → hi ≤ '9' → (IsoForm.digitIn lo hi).Reads p :=
    reads_digitIn hp
  have hzero : (IsoForm.skip '0').Reads p := reads_skip (hp _ (by decide))
  refine .either (hzero.bind fun _ => hzero.bind fun _ => hdigitIn (by decide) (by decide))
    (.either (hzero.bind fun _ => (hdigitIn (by decide) (by decide)).bind fun _ => reads_digit hp)
      (.either ((hdigitIn (by decide) (by decide)).bind fun _ => .exactly hp 2)
        ((reads_skip (hp _ (by decide))).bind fun _ => .either ?_ ?_)))
  · exact (hdigitIn (by decide) (by decide)).bind fun _ => reads_digit hp
  · exact (reads_skip (hp _ (by decide))).bind fun _ => hdigitIn (by decide) (by decide)

lemma reads_dayPart (hdash : p '-') (hweek : p 'W') : IsoForm.dayPart.Reads p := by
  refine .bind (.optional (.charThat fun _ h => (beq_iff_eq.mp h) ▸ hdash)) fun dash =>
    .either ((reads_month hp).bind fun _ => reads_maybe ?_)
      (.either (reads_week hp hdash hweek) (reads_dayOfYear hp))
  cases dash with
  | none => exact reads_dayOfMonth hp
  | some c => exact (reads_skip hdash).bind fun _ => reads_dayOfMonth hp

end Fronts

/-- A time is read up to a zone, which may be missing. -/
lemma exists_zone {s last : List Char} {u : Unit} (h : (u, last) ∈ IsoForm.timePart s) :
    ∃ c front mid, s = c :: (front ++ mid) ∧ (∀ d ∈ front, isOffsetStart d = false) ∧
      (u, last) ∈ IsoForm.maybe IsoForm.zone mid := by
  have hdigit : ∀ c, isDecimal c = true → isOffsetStart c = false :=
    fun c hc => not_isOffsetStart_of_mem (Or.inl hc)
  have hfraction : IsoForm.fraction.Reads (isOffsetStart · = false) :=
    reads_fraction hdigit rfl rfl
  obtain ⟨c, s₁, hmark, h₁⟩ := mem_bind.mp h
  obtain ⟨rfl, -⟩ := mem_charThat.mp hmark
  obtain ⟨colon, s₂, hread, h₂⟩ := mem_bind.mp h₁
  obtain ⟨clock, rfl, hclock⟩ := reads_hourMinute hdigit rfl hread
  obtain ⟨v, s₃, hmaybe, h₃⟩ := mem_bind.mp h₂
  obtain ⟨front, rfl, hfront⟩ := reads_maybe (hfraction.bind fun _ => .refuse _) hmaybe
  cases colon with
  | none =>
    exact ⟨c, clock ++ front, s₃, by rw [List.append_assoc],
      List.forall_mem_append.mpr ⟨hclock, hfront⟩, h₃⟩
  | some colon =>
    obtain ⟨w, s₄, hread, h₄⟩ := mem_bind.mp h₃
    have hreads : (IsoForm.maybe (do
        if colon then IsoForm.skip ':'
        IsoForm.sixty
        IsoForm.maybe IsoForm.fraction)).Reads (isOffsetStart · = false) := by
      refine reads_maybe ?_
      have hsixty := (reads_sixty hdigit).bind fun _ => reads_maybe hfraction
      cases colon with
      | false => exact hsixty
      | true => exact Reads.bind (reads_skip rfl) fun _ => hsixty
    obtain ⟨seconds, rfl, hseconds⟩ := hreads hread
    refine ⟨c, clock ++ (front ++ seconds), s₄, by simp only [List.append_assoc], ?_, h₄⟩
    exact List.forall_mem_append.mpr ⟨hclock, List.forall_mem_append.mpr ⟨hfront, hseconds⟩⟩

section Late

variable {last : List Char} {u : Unit}

lemma zone_starts : IsoForm.zone.Starts (isOffsetStart · = true) := by
  refine .either (.bind (.charThat fun c hc => ?_) _) (.bind (.charThat fun c hc => ?_) _)
  · rw [beq_iff_eq.mp hc]
    rfl
  · rw [Bool.or_eq_true, decide_eq_true_iff, decide_eq_true_iff] at hc
    rcases hc with rfl | rfl <;> rfl

lemma hour_takes : IsoForm.hour.Takes 2 :=
  .either ((IsoForm.digitIn_takes _ _).bind fun _ => IsoForm.digit_takes)
    ((IsoForm.skip_takes _).bind fun _ => IsoForm.digitIn_takes _ _)

/-- Minutes are read after the colon before them. -/
lemma eq_of_mem_colon {v : Unit} {minute mid : List Char} {colon : Bool}
    (hminute : minute.head? ≠ some ':')
    (hcolon : (v, mid) ∈ IsoForm.maybe (IsoForm.skip ':')
      ((if colon then [':'] else []) ++ minute))
    (hsixty : (u, last) ∈ IsoForm.sixty mid) : mid = minute := by
  rcases IsoForm.mem_maybe.mp hcolon with hskip | hsame
  · have hs := IsoForm.mem_skip.mp hskip
    cases colon with
    | true => exact (List.cons.inj hs).2.symm
    | false => exact absurd (congrArg List.head? hs) hminute
  · cases colon with
    | true =>
      -- a colon is no digit of a minute
      rw [hsame] at hsixty
      obtain ⟨x, y, hx, -⟩ := mem_bind.mp hsixty
      obtain ⟨z, more, hz, hdigit⟩ := IsoForm.digitIn_starts (by decide) (by decide) hx
      rw [← (List.cons.inj hz).1] at hdigit
      cases hdigit
    | false => exact hsame

/-- A zone is not at its end before its minutes are read. -/
lemma lt_of_mem_zone {sign : Char} {hour minute : List Char} {colon : Bool}
    (hsign : sign = '+' ∨ sign = '-') (hhour : IsNumeral 2 hour) (hminute : IsNumeral 2 minute)
    (hdigits : ∀ c ∈ minute, c.isDigit = true) (hlast : last = [] ∨ last = ['\n'])
    (h : (u, last) ∈ IsoForm.zone (ZoneText.minutes sign hour colon minute).chars) :
    digitsValue minute < 60 := by
  have hnot : ∀ c ∈ last, isDecimal c = false := by
    rcases hlast with rfl | rfl
    · exact nofun
    · exact List.forall_mem_singleton.mpr rfl
  have hpair := isPair hminute hdigits
  obtain ⟨a, b, hab⟩ := List.length_eq_two.mp hminute.1
  have ha : isDecimal a = true := hminute.2 a (hab ▸ List.mem_cons_self)
  have hhead : minute.head? ≠ some ':' := by
    rintro hcolon
    rw [hab, List.head?_cons] at hcolon
    rw [Option.some.inj hcolon] at ha
    cases ha
  have hleft : last ≠ (if colon then [':'] else []) ++ minute := by
    rintro rfl
    rw [hnot a (List.mem_append_right _ (hab ▸ List.mem_cons_self))] at ha
    cases ha
  rcases mem_either.mp h with hzulu | hsigned
  · have hZ := (List.cons.inj (IsoForm.mem_skip.mp hzulu)).1
    rcases hsign with rfl | rfl <;> cases hZ
  · obtain ⟨c, s₁, hchar, h₁⟩ := mem_bind.mp hsigned
    obtain ⟨-, rfl⟩ := List.cons.inj (mem_charThat.mp hchar).1
    obtain ⟨v, s₂, hmem, h₂⟩ := mem_bind.mp h₁
    have hs₂ := hour_takes hmem
    rw [List.drop_left' hhour.1] at hs₂
    subst hs₂
    rcases IsoForm.mem_maybe.mp h₂ with hminutes | hend
    · obtain ⟨w, s₃, hcolon, hsixty⟩ := mem_bind.mp hminutes
      obtain rfl := eq_of_mem_colon hhead hcolon hsixty
      exact hpair.lt_of_mem_sixty hsixty
    · exact absurd hend hleft

/-- What is read up to the end of a time includes its zone. -/
lemma mem_zone_of_mem_timePart {t : TimeText} {sign : Char} {rest : List Char} (h : t.WellFormed)
    (hsign : isOffsetStart sign = true) (hlast : last = [] ∨ last = ['\n'])
    (hmem : (u, last) ∈ IsoForm.timePart ('T' :: (t.chars ++ sign :: rest))) :
    (u, last) ∈ IsoForm.zone (sign :: rest) := by
  obtain ⟨c, front, mid, hs, hfront, hmaybe⟩ := exists_zone hmem
  have htail := (List.cons.inj hs).2
  have hclock : ∀ c ∈ t.chars, isOffsetStart c = false := fun c hc =>
    not_isOffsetStart_of_mem (h.mem_chars c hc)
  rcases IsoForm.mem_maybe.mp hmaybe with hzone | rfl
  · obtain ⟨d, more, rfl, hd⟩ := zone_starts hzone
    obtain ⟨-, rfl, rfl⟩ := append_cons_inj htail hclock hfront hsign hd
    exact hzone
  · have hin : sign ∈ front ++ last := htail ▸ List.mem_append_right _ List.mem_cons_self
    have hnot : isOffsetStart sign = false := by
      rcases List.mem_append.mp hin with hin | hin
      · exact hfront sign hin
      · rcases hlast with rfl | rfl
        · cases hin
        · rw [List.mem_singleton.mp hin]
          rfl
    rw [hnot] at hsign
    cases hsign

lemma beq_mark_of_isDecimal {c : Char} (hc : isDecimal c = true) : (c == 'T') = false := by
  rw [beq_eq_false_iff_ne]
  rintro rfl
  cases hc

lemma drop_year {t : DateText} (h : t.WellFormed) : t.chars.drop 4 =
    ('-' :: (t.month ++ '-' :: t.date)) ++ DateText.timeChars t.time := by
  rw [DateText.chars, List.drop_left' h.year.1]
  simp

lemma beq_mark_of_mem_day {t : DateText} (h : t.WellFormed) :
    ∀ c ∈ '-' :: (t.month ++ '-' :: t.date), (c == 'T') = false := by
  refine List.forall_mem_cons.mpr ⟨rfl, List.forall_mem_append.mpr
    ⟨fun c hc => beq_mark_of_isDecimal (h.month.2 c hc), List.forall_mem_cons.mpr ⟨rfl, ?_⟩⟩⟩
  exact fun c hc => beq_mark_of_isDecimal (h.date.2 c hc)

/-- What is read up to the end of a date with a time includes the time. -/
lemma mem_timePart_of_mem_whole {t : DateText} (h : t.WellFormed)
    (hdigits : ∀ c ∈ t.year, c.isDigit = true) {time : List Char}
    (htime : DateText.timeChars t.time = 'T' :: time) (hlast : last = [] ∨ last = ['\n'])
    (hmem : (u, last) ∈ IsoForm.whole t.chars) : (u, last) ∈ IsoForm.timePart ('T' :: time) := by
  have hdrop := drop_year h
  rw [htime] at hdrop
  have hhead : ∀ c, c.isDigit = false → t.chars.head? ≠ some c := fun c =>
    head?_ne_of_digits hdigits (List.ne_nil_of_length_eq_add_one h.year.1)
  have hnot : 'T' ∉ last := by
    rcases hlast with rfl | rfl <;> decide
  rcases IsoForm.mem_whole (hhead '-' rfl) (hhead '+' rfl) hmem with hend | ⟨mid, hday, htail⟩
  · refine absurd ?_ hnot
    rw [hend, hdrop]
    exact List.mem_append_right _ List.mem_cons_self
  · have hreads : IsoForm.dayPart.Reads fun c => (c == 'T') = false :=
      reads_dayPart (fun _ => beq_mark_of_isDecimal) rfl rfl
    obtain ⟨front, hs, hfront⟩ := hreads hday
    have hin : 'T' ∈ mid := by
      have hin : 'T' ∈ front ++ mid := by
        rw [← hs, hdrop]
        exact List.mem_append_right _ List.mem_cons_self
      rcases List.mem_append.mp hin with hin | hin
      · cases hfront 'T' hin
      · exact hin
    rcases htail with htimePart | rfl
    · obtain ⟨c, d, more, rfl, hc, -⟩ := IsoForm.starts_of_mem_timePart htimePart
      have hchar : IsDateChar c := by
        refine h.isDateChar c (List.mem_of_mem_drop (i := 4) ?_)
        rw [hs]
        exact List.mem_append_right _ List.mem_cons_self
      obtain rfl : c = 'T' := by
        rcases hc with hc | hblank
        · exact hc
        · rw [hchar.not_isBlank] at hblank
          cases hblank
      rw [hdrop] at hs
      obtain ⟨-, -, rfl⟩ := append_cons_inj (t := (· == 'T')) hs (beq_mark_of_mem_day h) hfront rfl rfl
      exact htimePart
    · exact absurd hin hnot

/-- In the form the minutes of an offset are minutes. -/
theorem minute_lt_of_isIsoForm {t : DateText} (h : t.WellFormed) (hreadable : t.Readable)
    (hform : isIsoForm t.chars = true) : t.zone.time.minute < 60 := by
  obtain ⟨u, last, hwhole, hlast⟩ := accepts_iff.mp hform
  obtain ⟨hyear, -⟩ := List.forall_mem_append.mp hreadable.digits
  unfold DateText.zone
  cases hpart : t.time with
  | none => decide
  | some part =>
    obtain ⟨clock, zone⟩ := part
    obtain ⟨hclock, hzone⟩ := h.time clock zone hpart
    obtain ⟨-, -, hzoneDigits, -⟩ := hreadable.time clock zone hpart
    change zone.time.minute < 60
    cases zone with
    | absent | zulu | hours _ _ => exact (by decide : 0 < 60)
    | minutes sign hour colon minute =>
      obtain ⟨hsign, hhour, hminute⟩ := hzone
      have hstart : isOffsetStart sign = true := by rcases hsign with rfl | rfl <;> rfl
      have htime := mem_timePart_of_mem_whole h hyear
        (congrArg DateText.timeChars hpart) hlast hwhole
      exact lt_of_mem_zone hsign hhour hminute (List.forall_mem_append.mp hzoneDigits).2 hlast
        (mem_zone_of_mem_timePart hclock hstart hlast htime)

end Late

/-- A text that starts with a digit has none but digits, a point and blanks if it is a timestamp. -/
lemma isTimestampText_eq_false {s : List Char} {c d : Char} (hhead : s.head? = some c)
    (hc : isDecimal c = true) (hd : d ∈ s) (hdigit : isDecimal d = false) (hpoint : d ≠ '.')
    (hblank : isBlank d = false) : isTimestampText s = false := by
  rw [← Bool.not_eq_true]
  intro htext
  obtain ⟨t, ht, rfl⟩ := isTimestampText_iff.mp htext
  have hlead := ht.lead_eq_nil hhead (not_isBlank_of_isDecimal hc)
  have hsign : t.sign = [] := by
    rw [NumeralText.chars, hlead, NumeralText.core] at hhead
    rcases ht.sign with hs | hs | hs
    · exact hs
    · rw [hs] at hhead
      rw [← Option.some.inj hhead] at hc
      cases hc
    · rw [hs] at hhead
      rw [← Option.some.inj hhead] at hc
      cases hc
  rw [NumeralText.chars, hlead, NumeralText.core, hsign, List.nil_append, List.nil_append] at hd
  rcases List.mem_append.mp hd with hd | hd
  · rcases ht.mem_unsigned hd with h | h
    · rw [h] at hdigit
      cases hdigit
    · exact hpoint h
  · rw [ht.trail d hd] at hblank
    cases hblank

/-- A text without blanks has none at its ends. -/
lemma trim_eq_self {s : List Char} (h : ∀ c ∈ s, isBlank c = false) : trim s = s := by
  cases s with
  | nil => rfl
  | cons c rest =>
    have htrim : trim ([] ++ ((c :: rest) ++ [])) = c :: rest :=
      trimWhere_append nofun nofun h (List.cons_ne_nil _ _)
    rwa [List.append_nil] at htrim

namespace DateText

variable {t : DateText} {m : Moment}

lemma WellFormed.trim_chars (h : t.WellFormed) : trim t.chars = t.chars :=
  trim_eq_self fun c hc => (h.isDateChar c hc).not_isBlank

lemma WellFormed.isTimestampText (h : t.WellFormed) : isTimestampText t.chars = false := by
  obtain ⟨c, more, hyear⟩ := List.exists_cons_of_length_eq_add_one h.year.1
  refine isTimestampText_eq_false (c := c) (d := '-') ?_ (h.year.2 c (hyear ▸ List.mem_cons_self))
    (List.mem_append_right _ List.mem_cons_self) rfl (by decide) rfl
  rw [chars, hyear]
  rfl

lemma WellFormed.isoText (h : t.WellFormed)
    (hread : Moment.readIso? (spellZulu t.chars) = some m) :
    isoText t.chars = some <$> m.universal := by
  unfold InputGuard.isoText
  rw [h.trim_chars, hread]

/-- A text in which a moment is read is read as that moment without a format, and in the format
for ISO 8601 texts just where the minutes of its offset are less than sixty. -/
theorem WellFormed.dateText (h : t.WellFormed) {s : String} (hs : s.toList = t.chars)
    (hread : Moment.readIso? (spellZulu t.chars) = some m) :
    dateText none s = some <$> m.universal ∧
      dateText (some .iso) s =
        if t.zone.time.minute < 60 then some <$> m.universal else .ok none := by
  have hreadable := h.readable hread
  constructor
  · rw [dateText_none (hs ▸ h.isTimestampText), hs, h.isoText hread]
    cases m.universal <;> rfl
  · unfold InputGuard.dateText
    dsimp only
    rw [hs, h.isoText hread]
    by_cases hminute : t.zone.time.minute < 60
    · rw [if_pos (isIsoForm_chars h hreadable hminute), if_pos hminute]
    · have hform : ¬isIsoForm t.chars = true := fun hform =>
        hminute (minute_lt_of_isIsoForm h hreadable hform)
      rw [if_neg hform, if_neg hminute]

end DateText

/-- A context for checks, with conversion and at the start of the calendar. -/
def Visit.first : Visit := ⟨[], ⟨true, false⟩, .epoch⟩

lemma isoDate_check_iff {visit : Visit} {s : String} :
    StringRule.isoDate.check visit s = .ok s ↔ StringRule.isIsoDate s.toList = true := by
  unfold StringRule.check StringRule.require
  dsimp only
  by_cases haccepts : StringRule.isIsoDate s.toList = true
  · rw [if_pos haccepts]
    exact iff_of_true rfl haccepts
  · rw [if_neg haccepts]
    exact iff_of_false nofun haccepts

/-- The rule for dates accepts texts of the form in which a moment is read. -/
lemma exists_of_isoDate {s : List Char} (h : StringRule.isIsoDate s = true) :
    (∃ t : DateText, t.WellFormed ∧ t.chars = s) ∧
      ∃ m, Moment.readIso? (spellZulu s) = some m := by
  obtain ⟨hform, hread⟩ := Bool.and_eq_true_iff.mp h
  refine ⟨?_, Option.isSome_iff_exists.mp hread⟩
  obtain ⟨t, ht, rfl | rfl⟩ := exists_dateText hform
  · exact ⟨t, ht, rfl⟩
  · rw [ht.readIso?_lineFeed] at hread
    cases hread

namespace Value

/-- A text that the rule for dates accepts is put together from numerals. Unless no universal clock
shows its moment, it is read as a date without a format, and as the same date in the format for
ISO 8601 texts if the minutes of its offset are less than sixty. Otherwise it is no date there. -/
theorem toMoment_isoDate (visit : Visit) (s : String)
    (hs : StringRule.isoDate.check visit s = .ok s)
    (hnone : ∀ f, (str s).toMoment none ≠ .error f) :
    (∃ t : DateText, t.WellFormed ∧ t.chars = s.toList) ∧
      ∃ m, (str s).toMoment none = .ok (some m) ∧
        ∀ t : DateText, t.WellFormed → t.chars = s.toList →
          (str s).toMoment (some .iso) =
            .ok (if t.zone.time.minute < 60 then some m else none) := by
  obtain ⟨⟨t, ht, hchars⟩, m₀, hread⟩ := exists_of_isoDate (isoDate_check_iff.mp hs)
  have hboth : ∀ t : DateText, t.WellFormed → t.chars = s.toList →
      dateText none s = some <$> m₀.universal ∧ dateText (some .iso) s =
        if t.zone.time.minute < 60 then some <$> m₀.universal else .ok none :=
    fun t ht hchars => ht.dateText hchars.symm (hchars ▸ hread)
  have hplain := (hboth t ht hchars).1
  refine ⟨⟨t, ht, hchars⟩, ?_⟩
  cases huniversal : m₀.universal with
  | error f =>
    rw [huniversal] at hplain
    exact absurd hplain (hnone f)
  | ok m =>
    rw [huniversal] at hplain
    refine ⟨m, hplain, fun t ht hchars => ?_⟩
    rw [toMoment_str, (hboth t ht hchars).2, huniversal]
    split <;> rfl

/-- Half an hour after noon, behind universal time. -/
def leapText : DateText :=
  ⟨['2', '0', '2', '4'], ['0', '2'], ['2', '9'],
    some (⟨['1', '2'], ['3', '0'], .fractional ['1', '5'] ['2', '5']⟩,
      .minutes '-' ['0', '1'] false ['3', '0'])⟩

theorem toMoment_isoDate_leap :
    let s := "2024-02-29T12:30:15.25-0130"
    StringRule.isoDate.check .first s = .ok s ∧ (∀ f, (str s).toMoment none ≠ .error f) ∧
      leapText.WellFormed ∧ leapText.chars = s.toList ∧
        ∃ m, (str s).toMoment none = .ok (some m) ∧
          (str s).toMoment (some .iso) = .ok (some m) := by
  intro s
  have hs : StringRule.isoDate.check .first s = .ok s :=
    isoDate_check_iff.mpr (by decide +kernel)
  have hok : ((str s).toMoment none).isOk = true := by decide +kernel
  have hnone : ∀ f, (str s).toMoment none ≠ .error f := by
    intro f hf
    rw [hf] at hok
    cases hok
  have hnumeral : ∀ {n : ℕ} {cs : List Char}, cs.length = n → cs.all isDecimal = true →
      IsNumeral n cs := fun hlength hdigits => ⟨hlength, List.all_eq_true.mp hdigits⟩
  have hwf : leapText.WellFormed := by
    refine ⟨hnumeral rfl (by decide), hnumeral rfl (by decide), hnumeral rfl (by decide), ?_⟩
    rintro clock zone htime
    obtain ⟨rfl, rfl⟩ := Prod.mk.inj (Option.some.inj htime)
    refine ⟨⟨hnumeral rfl (by decide), hnumeral rfl (by decide), hnumeral rfl (by decide),
      List.cons_ne_nil _ _, List.all_eq_true.mp (by decide)⟩, Or.inr rfl,
      hnumeral rfl (by decide), hnumeral rfl (by decide)⟩
  have hchars : leapText.chars = s.toList := by decide
  obtain ⟨-, m, hplain, hiso⟩ := toMoment_isoDate .first s hs hnone
  exact ⟨hs, hnone, hwf, hchars, m, hplain, hiso leapText hwf hchars⟩

/-- Sixty minutes ahead of universal time, a text is a date but has not the form of one. -/
theorem not_toMoment_isoDate : ¬∀ (visit : Visit) (s : String),
    StringRule.isoDate.check visit s = .ok s → (∀ f, (str s).toMoment none ≠ .error f) →
      (∀ f, (str s).toMoment (some .iso) ≠ .error f) →
        ∃ m, (str s).toMoment none = .ok (some m) ∧
          (str s).toMoment (some .iso) = .ok (some m) := by
  intro hagree
  have hok : ((str "2020-01-01T00:00+00:60").toMoment none).isOk = true := by decide +kernel
  have hiso : (str "2020-01-01T00:00+00:60").toMoment (some .iso) = .ok none := by decide +kernel
  obtain ⟨m, -, hm⟩ := hagree .first "2020-01-01T00:00+00:60"
    (isoDate_check_iff.mpr (by decide +kernel))
    (fun f hf => by rw [hf] at hok; cases hok) (fun f hf => by rw [hiso] at hf; cases hf)
  rw [hiso] at hm
  cases hm

end Value

end InputGuard

import InputGuard.Proofs.DateForms
import InputGuard.Proofs.Digits

/-!
# Moments that are printed and read again

The text of a moment on a universal clock is put together from padded numerals. They are read as the
parts of the day and of the time of day, and these make up the moment again.
-/

namespace InputGuard

open Unicode

lemma padded_isNumeral {width n : ℕ} (hwidth : 0 < width) (h : n < 10 ^ width) :
    IsNumeral width (padded width n) :=
  ⟨length_padded hwidth h, fun c hc => isDecimal_of_isDigit (isDigit_padded width n c hc)⟩

namespace TimeOfDay

/-- The numerals of a time of day; a fraction of zero is left out. -/
def written (t : TimeOfDay) : TimeText where
  hour := padded 2 t.hour
  minute := padded 2 t.minute
  seconds :=
    if t.micro = 0 then .whole (padded 2 t.second)
    else .fractional (padded 2 t.second) (padded 6 t.micro)

variable {t : TimeOfDay}

lemma chars_written (t : TimeOfDay) : t.written.chars = t.text.toList := by
  unfold written text fractionText TimeText.chars
  dsimp only
  split
  · simp [SecondsText.chars, padded]
  · simp [SecondsText.chars, padded]

lemma written_wellFormed (h : t.isValid = true) : t.written.WellFormed := by
  obtain ⟨hhour, hminute, hsecond, hmicro⟩ := isValid_iff.mp h
  have hmillion : microsPerSecond = 1000000 := rfl
  rw [hmillion] at hmicro
  have hhour : IsNumeral 2 (padded 2 t.hour) := padded_isNumeral (by decide) (by omega)
  have hminute : IsNumeral 2 (padded 2 t.minute) := padded_isNumeral (by decide) (by omega)
  have hsecond : IsNumeral 2 (padded 2 t.second) := padded_isNumeral (by decide) (by omega)
  have hfraction : IsNumeral 6 (padded 6 t.micro) := padded_isNumeral (by decide) (by omega)
  refine ⟨hhour, hminute, ?_⟩
  unfold written
  dsimp only
  split
  · exact hsecond
  · refine ⟨hsecond, ?_, hfraction.2⟩
    rintro hnil
    have hlength := hfraction.1
    rw [hnil] at hlength
    cases hlength

lemma isDigits_written (t : TimeOfDay) : IsDigits t.written.digits := by
  unfold written TimeText.digits
  dsimp only
  refine isDigits_append.mpr ⟨isDigit_padded _ _, isDigits_append.mpr ⟨isDigit_padded _ _, ?_⟩⟩
  split
  · exact isDigit_padded _ _
  · refine isDigits_append.mpr ⟨isDigit_padded _ _, fun c hc => ?_⟩
    exact isDigit_padded _ _ c (List.mem_of_mem_take hc)

lemma value_written (h : t.isValid = true) : t.written.value = t := by
  obtain ⟨-, -, -, hmicro⟩ := isValid_iff.mp h
  obtain ⟨hour, minute, second, micro⟩ := t
  unfold written TimeText.value
  dsimp only at hmicro ⊢
  rw [digitsValue_padded, digitsValue_padded]
  split
  · rename_i hzero
    rw [SecondsText.addTo, digitsValue_padded, hzero]
  · have hsix : (padded 6 micro).length = 6 := length_padded (by decide) hmicro
    rw [SecondsText.addTo, hsix, List.take_of_length_le hsix.le, digitsValue_padded,
      digitsValue_padded]
    simp [tenTo]

end TimeOfDay

namespace Moment

variable {m : Moment}

/-- The numerals of a moment on a universal clock. -/
def written (m : Moment) : DateText where
  year := padded 4 m.day.year
  month := padded 2 m.day.month
  date := padded 2 m.day.day
  time := some (m.time.written, .minutes '+' ['0', '0'] true ['0', '0'])

lemma day_isValid (m : Moment) : m.day.IsValid := by
  obtain ⟨day, hday, -⟩ := m.exists_ofDay?
  exact (Day.ofDate?_eq_some_iff.mp hday).1

lemma time_isValid (m : Moment) : m.time.isValid = true := by
  obtain ⟨day, -, hmoment⟩ := m.exists_ofDay?
  exact (ofDay?_eq_some_iff.mp hmoment).1

lemma chars_written (h : m.offset = some 0) : m.written.chars = m.text.toList := by
  have hoffset : offsetText 0 = "+00:00" := by decide +kernel
  unfold text written DateText.chars CivilDate.text DateText.timeChars
  dsimp only
  rw [h, Option.map_some, Option.getD_some, hoffset, TimeOfDay.chars_written]
  simp [padded, ZoneText.chars]

lemma written_wellFormed (m : Moment) : m.written.WellFormed := by
  obtain ⟨⟨-, hyear⟩, ⟨-, hmonth⟩, -, hday⟩ := m.day_isValid
  have hle : m.day.day ≤ 31 := hday.trans (daysInMonth_le _ _)
  have hyear : IsNumeral 4 (padded 4 m.day.year) := padded_isNumeral (by decide) (by omega)
  have hmonth : IsNumeral 2 (padded 2 m.day.month) := padded_isNumeral (by decide) (by omega)
  have hdate : IsNumeral 2 (padded 2 m.day.day) := padded_isNumeral (by decide) (by omega)
  refine ⟨hyear, hmonth, hdate, ?_⟩
  rintro clock zone htime
  obtain ⟨rfl, rfl⟩ := Prod.mk.inj (Option.some.inj htime)
  exact ⟨TimeOfDay.written_wellFormed m.time_isValid, Or.inl rfl, isNumeral_zeros,
    isNumeral_zeros⟩

lemma civil_written (m : Moment) : m.written.civil = m.day := by
  unfold written DateText.civil
  dsimp only
  rw [digitsValue_padded, digitsValue_padded, digitsValue_padded]

/-- The zone of the text is universal time. -/
lemma isoTime?_written {t : TimeOfDay} (h : t.isValid = true) :
    isoTime? (t.written.chars ++ ['+', '0', '0', ':', '0', '0']) = some (t, some 0) := by
  have hread := (TimeOfDay.written_wellFormed h).isoTime?_chars (Or.inl rfl)
    (readClock?_hourMinute isNumeral_zeros isNumeral_zeros true)
  have hdigits : IsDigits (t.written.digits ++ ['0', '0', '0', '0']) :=
    isDigits_append.mpr ⟨t.isDigits_written, by decide⟩
  rw [TimeOfDay.value_written h] at hread
  exact hread.trans (if_pos hdigits)

/-- The parts of the text are read one after the other, and make up the moment. -/
theorem readIso?_written (h : m.offset = some 0) :
    readIso? (spellZulu m.written.chars) = some m := by
  obtain ⟨day, hday, hmoment⟩ := m.exists_ofDay?
  have hdigits : IsDigits (m.written.year ++ (m.written.month ++ m.written.date)) :=
    isDigits_append.mpr ⟨isDigit_padded _ _,
      isDigits_append.mpr ⟨isDigit_padded _ _, isDigit_padded _ _⟩⟩
  have htime : DateText.timeChars m.written.spelledTime ++ spellZulu [] =
      'T' :: (m.time.written.chars ++ ['+', '0', '0', ':', '0', '0']) := List.append_nil _
  rw [← m.written.chars.append_nil, m.written_wellFormed.readIso?, if_pos hdigits, civil_written,
    hday, htime]
  dsimp only [Option.bind_some]
  rw [isoTime?_written m.time_isValid]
  dsimp only [Option.bind_some]
  rwa [h] at hmoment

end Moment

namespace Value

/-- A moment on a universal clock is read back from its text, with and without the format for
ISO 8601 texts. -/
theorem toMoment_text {m : Moment} (h : m.offset = some 0) :
    (str m.text).toMoment none = .ok (some m) ∧
      (str m.text).toMoment (some .iso) = .ok (some m) := by
  obtain ⟨hnone, hiso⟩ := m.written_wellFormed.dateText (Moment.chars_written h).symm
    (Moment.readIso?_written h)
  have hminute : m.written.zone.time.minute < 60 := by
    have hzero : m.written.zone.time.minute = 0 := rfl
    omega
  rw [Moment.universal_of_offset h] at hnone hiso
  rw [if_pos hminute] at hiso
  exact ⟨hnone, hiso⟩

end Value

end InputGuard

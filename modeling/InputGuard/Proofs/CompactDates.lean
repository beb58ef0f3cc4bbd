import InputGuard.Proofs.IsoForms
import InputGuard.Proofs.IsoReadings
import InputGuard.Proofs.Milliseconds

/-!
# Dates of eight digits

The format for ISO 8601 texts only restricts what is read as a date, with one exception. A text of
eight digits is a date without dashes in that format, and a number of milliseconds in none.
-/

namespace InputGuard

open Unicode

/-- The digits of a date without dashes. -/
structure CompactDigits where
  year : List Char
  month : List Char
  date : List Char
  year_length : year.length = 4
  month_length : month.length = 2
  date_length : date.length = 2
  isDigit : ∀ c ∈ year ++ (month ++ date), c.isDigit = true

namespace CompactDigits

variable (ds : CompactDigits)

def chars : List Char := ds.year ++ (ds.month ++ ds.date)

/-- The day that the digits name. -/
def civil : CivilDate := ⟨digitsValue ds.year, digitsValue ds.month, digitsValue ds.date⟩

lemma length_chars : ds.chars.length = 8 := by
  rw [chars, List.length_append, List.length_append, ds.year_length, ds.month_length,
    ds.date_length]

/-- Whether the digits make up a text, which may end with a line feed. -/
def IsText (s : List Char) : Prop := s = ds.chars ∨ s = ds.chars ++ ['\n']

end CompactDigits

section Iso

variable {s : List Char} {m : Moment}

lemma head?_drop_chars (ds : CompactDigits) {c : Char} (hc : c.isDigit = false) (k : ℕ) :
    (ds.chars.drop k).head? ≠ some c := by
  intro hhead
  have hmem : c ∈ ds.chars := List.mem_of_mem_drop (List.mem_of_mem_head? hhead)
  rw [ds.isDigit c hmem] at hc
  cases hc

lemma isoDateLength?_chars (ds : CompactDigits) : isoDateLength? ds.chars = some 8 := by
  have hdash : ds.chars[4]? ≠ some '-' := by
    rw [← List.head?_drop]
    exact head?_drop_chars ds (by decide) 4
  have hweek : ds.chars[4]? ≠ some 'W' := by
    rw [← List.head?_drop]
    exact head?_drop_chars ds (by decide) 4
  unfold isoDateLength?
  rw [ds.length_chars, if_neg (by decide), if_neg hdash, if_neg hweek]

lemma ofDay?_midnight {day : Day} (h : Moment.ofDay? day .midnight none = some m) :
    m.clock = day.number * microsPerDay ∧ m.offset = none := by
  obtain ⟨-, hclock, hoffset⟩ := Moment.ofDay?_eq_some_iff.mp h
  have hzero : TimeOfDay.midnight.micros = 0 := by decide
  rw [hzero, Nat.add_zero] at hclock
  exact ⟨hclock, hoffset⟩

/-- A day and nothing else is read from eight digits. -/
lemma readIso?_chars {ds : CompactDigits} (h : Moment.readIso? ds.chars = some m) :
    ∃ day, Day.ofDate? ds.civil = some day ∧ m.clock = day.number * microsPerDay ∧
      m.offset = none := by
  obtain ⟨length, day, hlength, hday, hmoment⟩ := readIso?_eq_some h
  obtain rfl : 8 = length := Option.some.inj ((isoDateLength?_chars ds).symm.trans hlength)
  have hmidnight := hmoment (List.drop_eq_nil_iff.mpr ds.length_chars.le)
  obtain ⟨year, month, date, rest, hchars, hyear, hmonth, hdate, -, hcivil⟩ :=
    isoDay?_eq_some (head?_drop_chars ds (by decide) 4) (head?_drop_chars ds (by decide) 4) hday
  obtain ⟨rfl, htail⟩ := List.append_inj hchars (ds.year_length.trans hyear.symm)
  obtain ⟨rfl, htail'⟩ := List.append_inj htail (ds.month_length.trans hmonth.symm)
  have hprefix : date <+: ds.date := ⟨rest, htail'.symm⟩
  obtain rfl := hprefix.eq_of_length (hdate.trans ds.date_length.symm)
  exact ⟨day, hcivil, ofDay?_midnight hmidnight⟩

/-- A numeral in which a day is read starts with eight digits. -/
lemma exists_compactDigits {t : NumeralText} (ht : t.WellFormed) {length : ℕ} {day : Day}
    (h : isoDay? t.core length = some day) :
    ∃ (ds : CompactDigits) (rest : List Char), t.core = ds.chars ++ rest := by
  have hdrop : ∀ c ∈ t.core.drop 4, isDecimal c = true ∨ c = '.' := by
    intro c hc
    rw [NumeralText.core] at hc
    refine ht.mem_unsigned ?_
    rcases ht.sign with hs | hs | hs <;> rw [hs] at hc <;> exact List.mem_of_mem_drop hc
  have hhead : ∀ c, isDecimal c = false → c ≠ '.' → (t.core.drop 4).head? ≠ some c := by
    intro c hdigit hpoint heq
    rcases hdrop c (List.mem_of_mem_head? heq) with hc | hc
    · rw [hc] at hdigit
      cases hdigit
    · exact hpoint hc
  obtain ⟨year, month, date, rest, hcore, hyear, hmonth, hdate, hdigits, -⟩ :=
    isoDay?_eq_some (hhead '-' (by decide) (by decide)) (hhead 'W' (by decide) (by decide)) h
  refine ⟨⟨year, month, date, hyear, hmonth, hdate, hdigits⟩, rest, ?_⟩
  rw [hcore, CompactDigits.chars, List.append_assoc, List.append_assoc]

/-- No text of the form starts with a blank. -/
lemma exists_head_of_isIsoForm (h : isIsoForm s = true) :
    ∃ c, s.head? = some c ∧ isBlank c = false := by
  obtain ⟨u, last, hwhole, -⟩ := Reading.accepts_iff.mp h
  obtain ⟨c, more, rfl, hc⟩ := IsoForm.whole_starts hwhole
  refine ⟨c, rfl, ?_⟩
  rcases hc with rfl | rfl | hdigit
  · rfl
  · rfl
  · exact not_isBlank_of_isDecimal hdigit

/-- After the digits of a date neither a numeral nor the blanks behind it can be a time. -/
lemma end_of_numeral {rest trail : List Char} (hrest : ∀ c ∈ rest, c ≠ 'T' ∧ isBlank c = false)
    (htrail : ∀ c ∈ trail, isBlank c = true)
    (hend : rest ++ trail = [] ∨ rest ++ trail = ['\n'] ∨ ∃ c d more,
      rest ++ trail = c :: d :: more ∧ (c = 'T' ∨ isBlank c = true) ∧ d.isDigit = true) :
    rest ++ trail = [] ∨ rest ++ trail = ['\n'] := by
  rcases hend with hend | hend | ⟨c, d, more, htime, hc, hdigit⟩
  · exact Or.inl hend
  · exact Or.inr hend
  cases rest with
  | nil =>
    have hmem : d ∈ trail := by
      rw [List.nil_append] at htime
      rw [htime]
      exact List.mem_cons_of_mem c List.mem_cons_self
    have hblank := htrail d hmem
    rw [not_isBlank_of_isDecimal (isDecimal_of_isDigit hdigit)] at hblank
    cases hblank
  | cons e rest =>
    obtain ⟨hmark, hblank⟩ := hrest e List.mem_cons_self
    rw [(List.cons.inj htime).1] at hmark hblank
    rw [hblank] at hc
    exact absurd hc (by simp [hmark])

/-- A form that is a numeral and in which a day is read is a text of eight digits. -/
lemma isText_of_isoForm {t : NumeralText} (ht : t.WellFormed) (hform : isIsoForm t.chars = true)
    {ds : CompactDigits} {rest : List Char} (hcore : t.core = ds.chars ++ rest) :
    ds.IsText t.chars := by
  obtain ⟨c, hhead, hc⟩ := exists_head_of_isIsoForm hform
  have hchars : t.chars = ds.chars ++ (rest ++ t.trail) := by
    rw [NumeralText.chars, ht.lead_eq_nil hhead hc, List.nil_append, hcore, List.append_assoc]
  have hrest : ∀ c ∈ rest, c ≠ 'T' ∧ isBlank c = false := by
    intro c hc
    have hmem : c ∈ t.core := hcore ▸ List.mem_append_right _ hc
    refine ⟨?_, ht.not_isBlank hmem⟩
    rintro rfl
    rcases ht.mem_core hmem with h | h | h | h <;> cases h
  rw [hchars] at hform ⊢
  have hend := end_of_isIsoForm ds.length_chars ds.isDigit hform
  rcases end_of_numeral hrest ht.trail hend with h | h
  · rw [h, List.append_nil]
    exact Or.inl rfl
  · rw [h]
    exact Or.inr rfl

end Iso

namespace CompactDigits

variable (ds : CompactDigits)

lemma digitsValue_chars : digitsValue ds.chars =
    ds.civil.year * 10000 + ds.civil.month * 100 + ds.civil.day := by
  rw [chars, digitsValue_append, digitsValue_append, List.length_append, ds.month_length,
    ds.date_length, civil]
  dsimp only
  ring

/-- The numeral that the digits are, with blanks after it. -/
def numeral (trail : List Char) : NumeralText := ⟨[], [], ds.chars, none, trail⟩

variable {ds} {s : List Char}

lemma numeral_wellFormed {trail : List Char} (htrail : ∀ c ∈ trail, isBlank c = true) :
    (ds.numeral trail).WellFormed where
  lead c hc := absurd hc List.not_mem_nil
  sign := Or.inl rfl
  whole c hc := isDecimal_of_isDigit (ds.isDigit c hc)
  whole_ne hnil := by
    have hlength := ds.length_chars
    rw [show ds.chars = [] from hnil] at hlength
    cases hlength
  fraction digits h := by cases h
  fraction_ne h := by cases h
  trail := htrail

/-- The text of eight digits is a numeral without separators around it. -/
lemma IsText.exists_numeral (h : ds.IsText s) : ∃ trail, (ds.numeral trail).WellFormed ∧
    (ds.numeral trail).chars = s ∧ ∀ c ∈ (ds.numeral trail).chars, isSeparator c = false := by
  have hplain : ∀ c ∈ ds.chars, isSeparator c = false := by
    intro c hc
    have hlow := (isDigit_iff.mp (ds.isDigit c hc)).1
    rw [← Bool.not_eq_true, isSeparator_iff]
    omega
  have hchars (trail : List Char) : (ds.numeral trail).chars = ds.chars ++ trail := by
    simp [NumeralText.chars, NumeralText.core, NumeralText.tail, numeral]
  rcases h with rfl | rfl
  · refine ⟨[], numeral_wellFormed fun c hc => absurd hc List.not_mem_nil, ?_, ?_⟩
    · rw [hchars, List.append_nil]
    · rwa [hchars, List.append_nil]
  · have hfeed : ∀ c ∈ ['\n'], isBlank c = true ∧ isSeparator c = false :=
      List.forall_mem_singleton.mpr (by decide)
    refine ⟨['\n'], numeral_wellFormed fun c hc => (hfeed c hc).1, hchars _, ?_⟩
    rw [hchars]
    exact List.forall_mem_append.mpr ⟨hplain, fun c hc => (hfeed c hc).2⟩

lemma number_numeral (trail : List Char) :
    (ds.numeral trail).number = .ofDecimal false (digitsValue ds.chars) 0 := by
  have hdigits : (ds.numeral trail).digits = ds.chars := by
    rw [NumeralText.digits, numeral, Option.getD_none, List.append_nil]
    exact map_latin ds.isDigit
  rw [NumeralText.number, hdigits]
  rfl

/-- Eight digits are read as so many milliseconds, and all of these are within the calendar. -/
lemma IsText.timestampText {s : String} (h : ds.IsText s.toList) :
    ∃ m, timestampText .milliseconds s = .ok (some m) ∧ m.offset = some 0 ∧
      (m.clock : ℤ) = epochSeconds * microsPerSecond + digitsValue ds.chars * 1000 := by
  obtain ⟨trail, hformed, hchars, hplain⟩ := h.exists_numeral
  have hlt : digitsValue ds.chars < 10 ^ 8 := ds.length_chars ▸ digitsValue_lt ds.isDigit
  have hmoment := timestampMoment_ofDecimal (t := digitsValue ds.chars) (hlt.trans (by decide))
  rw [Int.natAbs_natCast, decide_eq_false (by omega),
    timestampMoment_exact (hlt.trans (by decide))] at hmoment
  unfold InputGuard.timestampText
  rw [hformed.read? hplain hchars.symm, number_numeral]
  dsimp only
  rw [hmoment]
  cases hclock : Moment.ofClock? (epochSeconds * microsPerSecond + digitsValue ds.chars * 1000)
      (some 0) with
  | none =>
    have hrange := Moment.ofClock?_eq_none_iff.mp hclock
    have hlimit : (microLimit : ℤ) = 315537897600000000 := by decide +kernel
    have hsecond : (microsPerSecond : ℤ) = 1000000 := rfl
    rw [hlimit, epochSeconds, hsecond] at hrange
    omega
  | some m =>
    obtain ⟨hm, hoffset⟩ := Moment.ofClock?_eq_some hclock
    exact ⟨m, rfl, hoffset, hm⟩

end CompactDigits

lemma NumeralText.WellFormed.spellZulu_trim {t : NumeralText} (ht : t.WellFormed) :
    spellZulu (trim t.chars) = t.core := by
  rw [ht.trim_chars]
  refine spellZulu_of_notMem fun hmem => ?_
  rcases ht.mem_core hmem with h | h | h | h <;> cases h

/-- A text of a timestamp that has the form and is read as an ISO 8601 text has eight digits. -/
theorem exists_isText {s : List Char} {m : Moment} (htext : isTimestampText s = true)
    (hform : isIsoForm s = true) (h : isoText s = .ok (some m)) :
    ∃ ds : CompactDigits, ds.IsText s := by
  obtain ⟨t, ht, rfl⟩ := isTimestampText_iff.mp htext
  obtain ⟨m₀, hread, -⟩ := isoText_eq_ok h
  rw [ht.spellZulu_trim] at hread
  obtain ⟨length, day, -, hday, -⟩ := readIso?_eq_some hread
  obtain ⟨ds, rest, hcore⟩ := exists_compactDigits ht hday
  exact ⟨ds, isText_of_isoForm ht hform hcore⟩

/-- An ISO 8601 text of eight digits is the midnight of the day that the digits name. -/
theorem isoText_compact {ds : CompactDigits} {s : List Char} {m : Moment} (hs : ds.IsText s)
    (h : isoText s = .ok (some m)) :
    ∃ day, Day.ofDate? ds.civil = some day ∧ m.clock = day.number * microsPerDay := by
  obtain ⟨trail, ht, rfl, -⟩ := hs.exists_numeral
  obtain ⟨m₀, hread, huniversal⟩ := isoText_eq_ok h
  have hcore : (ds.numeral trail).core = ds.chars := by
    simp [NumeralText.core, NumeralText.tail, CompactDigits.numeral]
  rw [ht.spellZulu_trim, hcore] at hread
  obtain ⟨day, hday, hclock, hoffset⟩ := readIso?_chars hread
  refine ⟨day, hday, ?_⟩
  have hm := (Moment.universal_eq_ok huniversal).1
  rw [Moment.universalClock, hoffset, Option.getD_none, sub_zero] at hm
  exact (Nat.cast_injective hm).trans hclock

lemma Moment.eq_ofDay {m : Moment} {day : Day} (hclock : m.clock = day.number * microsPerDay)
    (hoffset : m.offset = some 0) : m = .ofDay day := by
  cases m
  cases hclock
  cases hoffset
  rfl

/-- Milliseconds that are written like a day are not a midnight: less than two days after the first
midnight of 1970 there is only one other, whose number is not written like a day. -/
lemma milliseconds_ne_midnight {ds : CompactDigits} {day : Day}
    (hday : Day.ofDate? ds.civil = some day) (number : ℕ) :
    epochSeconds * microsPerSecond + digitsValue ds.chars * 1000 ≠
      ((number * microsPerDay : ℕ) : ℤ) := by
  have hvalid := (Day.ofDate?_eq_some_iff.mp hday).1
  obtain ⟨⟨-, hyear⟩, ⟨hlow, hmonth⟩, -, hdate⟩ := hvalid
  have hdate' : ds.civil.day ≤ 31 := hdate.trans (daysInMonth_le _ _)
  have hsecond : microsPerSecond = 1000000 := rfl
  have hmidnight : microsPerDay = 86400000000 := rfl
  rw [ds.digitsValue_chars, hmidnight, hsecond, epochSeconds]
  omega

namespace Value

/-- A text of eight digits. -/
def IsCompact (ds : CompactDigits) (v : Value) : Prop :=
  ∃ s : String, v = .str s ∧ ds.IsText s.toList

variable {v : Value} {m : Moment}

lemma dateText_none_or_isText {s : String} (h : dateText (some .iso) s = .ok (some m)) :
    dateText none s = .ok (some m) ∨ ∃ ds : CompactDigits, ds.IsText s.toList := by
  unfold dateText at h
  dsimp only at h
  by_cases hform : isIsoForm s.toList = true
  · rw [if_pos hform] at h
    by_cases htext : isTimestampText s.toList = true
    · exact Or.inr (exists_isText htext hform h)
    · refine Or.inl ?_
      rw [dateText_none (by simpa using htext), h]
      rfl
  · rw [if_neg hform] at h
    cases h

lemma toMoment_none_or_compact (h : v.toMoment (some .iso) = .ok (some m)) :
    v.toMoment none = .ok (some m) ∨ ∃ ds, v.IsCompact ds := by
  cases v with
  | moment _ => exact Or.inl h
  | day _ => exact Or.inl h
  | str s =>
    rw [toMoment_str] at h ⊢
    exact (dateText_none_or_isText h).imp_right fun ⟨ds, hds⟩ => ⟨ds, s, rfl, hds⟩
  | null | bool _ | number _ | list _ | object _ | pattern _ => cases h

lemma toMoment_none_compact {ds : CompactDigits} (h : v.IsCompact ds) :
    ∃ m, v.toMoment none = .ok (some m) ∧ m.offset = some 0 ∧
      (m.clock : ℤ) = epochSeconds * microsPerSecond + digitsValue ds.chars * 1000 := by
  obtain ⟨s, rfl, hs⟩ := h
  obtain ⟨trail, ht, hchars, -⟩ := hs.exists_numeral
  obtain ⟨m, hm, hoffset, hclock⟩ := hs.timestampText
  refine ⟨m, ?_, hoffset, hclock⟩
  rw [toMoment_str]
  unfold dateText
  dsimp only
  rw [if_pos (hchars ▸ ht.isTimestampText), hm]

lemma toMoment_iso_compact {ds : CompactDigits} (hv : v.IsCompact ds)
    (h : v.toMoment (some .iso) = .ok (some m)) :
    ∃ day, Day.ofDate? ds.civil = some day ∧ m = .ofDay day := by
  have hoffset := offset_toMoment h
  obtain ⟨s, rfl, hs⟩ := hv
  rw [toMoment_str] at h
  unfold dateText at h
  dsimp only at h
  by_cases hform : isIsoForm s.toList = true
  · rw [if_pos hform] at h
    obtain ⟨day, hday, hclock⟩ := isoText_compact hs h
    exact ⟨day, hday, Moment.eq_ofDay hclock hoffset⟩
  · rw [if_neg hform] at h
    cases h

/-- What is read in the format for ISO 8601 texts is read the same without a format, but for texts
of eight digits. Those are midnight of the day they name in the format; without it they are read as
so many milliseconds from the first midnight of 1970, which is another moment. -/
theorem toMoment_none_of_iso (h : v.toMoment (some .iso) = .ok (some m)) :
    (v.toMoment none = .ok (some m) ↔ ∀ ds, ¬v.IsCompact ds) ∧
      ∀ ds, v.IsCompact ds →
        (∃ day, Day.ofDate? ds.civil = some day ∧ m = .ofDay day) ∧
          ∃ m', v.toMoment none = .ok (some m') ∧ m'.offset = some 0 ∧
            (m'.clock : ℤ) = epochSeconds * microsPerSecond + digitsValue ds.chars * 1000 := by
  refine ⟨⟨fun hnone ds hv => ?_, fun hcompact => ?_⟩, fun ds hv => ?_⟩
  · obtain ⟨day, hday, rfl⟩ := toMoment_iso_compact hv h
    obtain ⟨m', hm', -, hclock⟩ := toMoment_none_compact hv
    obtain rfl : m' = .ofDay day := Option.some.inj (Except.ok.inj (hm'.symm.trans hnone))
    exact milliseconds_ne_midnight hday day.number hclock.symm
  · rcases toMoment_none_or_compact h with hnone | ⟨ds, hv⟩
    · exact hnone
    · exact absurd hv (hcompact ds)
  · exact ⟨toMoment_iso_compact hv h, toMoment_none_compact hv⟩

def leapDay : CompactDigits :=
  ⟨['2', '0', '2', '4'], ['0', '2'], ['2', '9'], rfl, rfl, rfl, List.all_eq_true.mp (by decide)⟩

theorem toMoment_none_of_iso_leapDay :
    let m : Moment := .ofDay ⟨738944, by decide⟩
    ((Value.str "2024-02-29").toMoment (some .iso) = .ok (some m) ∧
      (Value.str "2024-02-29").toMoment none = .ok (some m)) ∧
      (Value.str "20240229").toMoment (some .iso) = .ok (some m) ∧
        ∃ m', (Value.str "20240229").toMoment none = .ok (some m') ∧
          (m'.clock : ℤ) = epochSeconds * microsPerSecond + 20240229 * 1000 := by
  intro m
  have hdashed : (Value.str "2024-02-29").toMoment (some .iso) = .ok (some m) := by decide +kernel
  have hcompact : (Value.str "20240229").toMoment (some .iso) = .ok (some m) := by decide +kernel
  have hlength : ∀ ds, ¬(Value.str "2024-02-29").IsCompact ds := by
    rintro ds ⟨s, hs, htext⟩
    cases hs
    have hten : "2024-02-29".toList.length = 10 := rfl
    rcases htext with h | h <;> rw [h] at hten <;> simp [ds.length_chars] at hten
  have htext : leapDay.IsText "20240229".toList := Or.inl (by decide)
  have hvalue : digitsValue leapDay.chars = 20240229 := by decide
  obtain ⟨m', hm', -, hclock⟩ :=
    ((toMoment_none_of_iso hcompact).2 leapDay ⟨"20240229", rfl, htext⟩).2
  rw [hvalue] at hclock
  exact ⟨⟨hdashed, (toMoment_none_of_iso hdashed).1.mpr hlength⟩, hcompact, m', hm', hclock⟩

/-- The leap day is written with the digits of a number of milliseconds. -/
theorem not_toMoment_none_of_iso : ¬∀ (v : Value) (m : Moment),
    v.toMoment (some .iso) = .ok (some m) → v.toMoment none = .ok (some m) := by
  intro hrestricts
  have hiso : (Value.str "20240229").toMoment (some .iso) =
      .ok (some (.ofDay ⟨738944, by decide⟩)) := by decide +kernel
  have hnone : (Value.str "20240229").toMoment none ≠
      .ok (some (.ofDay ⟨738944, by decide⟩)) := by decide +kernel
  exact hnone (hrestricts (.str "20240229") _ hiso)

end Value

end InputGuard

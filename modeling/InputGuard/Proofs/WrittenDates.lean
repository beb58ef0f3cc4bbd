import InputGuard.Proofs.LayoutReadings
import InputGuard.Proofs.PrintedMoments

/-!
# Dates that are written and read

A date survives being written down. The text of a moment is read as the moment again, and the texts
of a day in the layouts of numerals are read as its midnight; if the calendar has no such day they
are no dates. None of these texts is taken for a timestamp, and none in a layout for a text of
ISO 8601.
-/

namespace InputGuard

open Unicode

/-- The numeral of a number as it stands, and with two digits at least. -/
def numerals (n : ℕ) : List String := [natText n, padZeros 2 (natText n)]

/-- The texts of a day with its parts in the order of a layout: month, day and year with dashes or
slashes, and year, month and day with slashes. The year has four digits. -/
def CivilDate.layoutTexts (d : CivilDate) : List String :=
  let year := padZeros 4 (natText d.year)
  (numerals d.month).flatMap fun month => (numerals d.day).flatMap fun day =>
    [month ++ "-" ++ day ++ "-" ++ year, month ++ "/" ++ day ++ "/" ++ year,
      year ++ "/" ++ month ++ "/" ++ day]

/-- Digits that denote a number, one or two of them if these can. -/
structure Denotes (cs : List Char) (n : ℕ) : Prop where
  digits : ∀ c ∈ cs, c.isDigit = true
  value : digitsValue cs = n
  ne_nil : cs ≠ []
  length_le : ∀ {width}, 2 ≤ width → n < 10 ^ width → cs.length ≤ width

lemma Denotes.length {cs : List Char} {n : ℕ} (h : Denotes cs n) (hn : n < 100) :
    cs.length = 1 ∨ cs.length = 2 := by
  have hle : cs.length ≤ 2 := h.length_le le_rfl hn
  have hpos := List.length_pos_iff.mpr h.ne_nil
  omega

lemma denotes_padded {width : ℕ} (hwidth : width ≤ 2) (n : ℕ) : Denotes (padded width n) n where
  digits := isDigit_padded width n
  value := digitsValue_padded width n
  ne_nil := by
    have hpos : 0 < (Nat.toDigits 10 n).length := List.length_pos_iff.mpr Nat.toDigits_ne_nil
    rw [← List.length_pos_iff, length_padded_eq]
    exact lt_max_of_lt_right hpos
  length_le := by
    intro k hk hn
    rw [length_padded_eq]
    exact max_le (hwidth.trans hk) ((Nat.length_toDigits_le_iff (by decide) (by omega)).mpr hn)

lemma denotes_of_mem {n : ℕ} {s : String} (hs : s ∈ numerals n) : Denotes s.toList n := by
  rcases List.mem_cons.mp hs with rfl | hs
  · have hlist : (natText n).toList = padded 0 n := by
      rw [padded_eq, Nat.zero_sub]
      exact String.toList_ofList
    rw [hlist]
    exact denotes_padded (Nat.zero_le 2) n
  · have hlist : s.toList = padded 2 n := by
      rw [List.mem_singleton.mp hs, padded]
    rw [hlist]
    exact denotes_padded le_rfl n

section NotIso

variable {cs rest date year : List Char} {sep : Char}

lemma mem_of_append_eq {front more : List Char} (hs : cs ++ sep :: rest = front ++ more)
    (hlength : cs.length < front.length) : sep ∈ front := by
  rcases List.append_eq_append_iff.mp hs with ⟨tail, rfl, htail⟩ | ⟨tail, rfl, -⟩
  · cases tail with
    | nil =>
      rw [List.append_nil] at hlength
      exact absurd hlength (lt_irrefl _)
    | cons c tail =>
      rw [(List.cons.inj htail).1]
      exact List.mem_append_right _ List.mem_cons_self
  · rw [List.length_append] at hlength
    omega

/-- A date of ISO 8601 starts with four digits. -/
lemma readIso?_eq_none_of_short (hlength : cs.length < 4) (hsep : sep.isDigit = false) :
    Moment.readIso? (cs ++ sep :: rest) = none := by
  rw [Option.eq_none_iff_forall_ne_some]
  intro m hread
  obtain ⟨length, day, -, hday, -⟩ := readIso?_eq_some hread
  obtain ⟨ds, more, hs, hfour, hdigits⟩ := exists_year hday
  have hdigit := hdigits sep (mem_of_append_eq hs (hfour ▸ hlength))
  rw [hdigit] at hsep
  cases hsep

/-- Without a dash or a week after the year it starts with eight digits. -/
lemma readIso?_eq_none_of_unbroken (hlength : cs.length < 8) (hsep : sep.isDigit = false)
    (hdash : ((cs ++ sep :: rest).drop 4).head? ≠ some '-')
    (hweek : ((cs ++ sep :: rest).drop 4).head? ≠ some 'W') :
    Moment.readIso? (cs ++ sep :: rest) = none := by
  rw [Option.eq_none_iff_forall_ne_some]
  intro m hread
  obtain ⟨length, day, -, hday, -⟩ := readIso?_eq_some hread
  obtain ⟨year, month, date, more, hs, hyear, hmonth, hdate, hdigits, -⟩ :=
    isoDay?_eq_some hdash hweek hday
  have hfront : cs ++ sep :: rest = (year ++ (month ++ date)) ++ more := by
    rw [hs, List.append_assoc, List.append_assoc]
  have height : cs.length < (year ++ (month ++ date)).length := by
    rw [List.length_append, List.length_append]
    omega
  have hdigit := hdigits sep (mem_of_append_eq hfront height)
  rw [hdigit] at hsep
  cases hsep

lemma isoTime?_single (c : Char) : isoTime? [c] = none := by
  have hdigits : takeDigits? 2 0 [c] = none := by
    unfold takeDigits?
    split
    · rfl
    · rfl
  unfold isoTime? readClock?
  rw [hdigits]
  rfl

/-- With dashes it has two digits after the second of them, and one digit more is no time. -/
lemma readIso?_eq_none_of_dashes (hlength : cs.length = 4) (hdate : ∀ c ∈ date, c.isDigit = true)
    (hne : date ≠ []) (hyear : year.length = 4) :
    Moment.readIso? (cs ++ '-' :: (date ++ '-' :: year)) = none := by
  have hweek : (date ++ '-' :: year).head? ≠ some 'W' := head?_ne_of_digits hdate hne rfl
  rw [Option.eq_none_iff_forall_ne_some]
  intro m hread
  obtain ⟨length, day, -, hday, -⟩ := readIso?_eq_some hread
  obtain ⟨month, more, hs, hmonth, hdigits⟩ := exists_dash hlength hweek hday
  obtain ⟨rfl, -, rfl⟩ := Reading.append_cons_inj (t := fun c => !c.isDigit) hs
    (fun c hc => by rw [hdate c hc]; rfl) (fun c hc => by rw [hdigits c hc]; rfl) rfl rfl
  match year, hyear with
  | [a, b, c, d], _ =>
    have htwo : [a, b].length = 2 := rfl
    have hhead : date.head? ≠ some 'W' := by
      rwa [List.head?_append_of_ne_nil _ hne] at hweek
    have hsplit : [a, b, c, d] = [a, b] ++ [c, d] := rfl
    rw [hsplit, readIso?_dashed hlength hmonth htwo hhead] at hread
    dsimp only at hread
    rw [isoTime?_single] at hread
    split_ifs at hread
    obtain ⟨_, -, hnone⟩ := Option.bind_eq_some_iff.mp hread
    cases hnone

/-- A text of a year, a month and a day with slashes is not of ISO 8601. -/
lemma readIso?_yearFirst (hlength : cs.length = 4) :
    Moment.readIso? (cs ++ '/' :: rest) = none := by
  have hhead : ((cs ++ '/' :: rest).drop 4).head? = some '/' := by
    rw [List.drop_left' hlength]
    rfl
  exact readIso?_eq_none_of_unbroken (by omega) rfl (by rw [hhead]; decide)
    (by rw [hhead]; decide)

/-- A text of a month of at most seven digits, a day and a year is not of ISO 8601 either. -/
lemma readIso?_monthFirst (hcs : ∀ c ∈ cs, c.isDigit = true) (hlength : cs.length ≤ 7)
    (hsep : sep = '-' ∨ sep = '/') (hdate : ∀ c ∈ date, c.isDigit = true) (hne : date ≠ [])
    (hyear : year.length = 4) : Moment.readIso? (cs ++ sep :: (date ++ sep :: year)) = none := by
  have hdigit : sep.isDigit = false := by rcases hsep with rfl | rfl <;> rfl
  rcases lt_trichotomy cs.length 4 with hshort | hfour | hlong
  · exact readIso?_eq_none_of_short hshort hdigit
  · rcases hsep with rfl | rfl
    · exact readIso?_eq_none_of_dashes hfour hdate hne hyear
    · exact readIso?_yearFirst hfour
  · have hhead : ((cs ++ sep :: (date ++ sep :: year)).drop 4).head? = some cs[4] := by
      rw [List.head?_drop, List.getElem?_append_left hlong, List.getElem?_eq_getElem hlong]
    have hfifth := hcs _ (List.getElem_mem hlong)
    refine readIso?_eq_none_of_unbroken (by omega) hdigit ?_ ?_ <;>
    · intro h
      rw [Option.some.inj (hhead.symm.trans h)] at hfifth
      cases hfifth

end NotIso

/-- The midnight of a day, if there is such a day. -/
def Moment.midnight? (d : CivilDate) : Option Moment :=
  (Day.ofDate? d).bind fun day => ofDay? day .midnight none

section Layouts

open Layout

variable {d : CivilDate} {year month date : List Char} {c : Char}
variable (hyear : ∀ c ∈ year, c.isDigit = true) (hlength : year.length = 4)
variable (hvalue : digitsValue year = d.year)
variable (hmonth : Denotes month d.month) (hdate : Denotes date d.day)

include hmonth hdate

/-- The limits of the numerals leave no day of the calendar out. -/
lemma midnight?_of_numerals : (if UpTo 12 month ∧ UpTo 31 date then
    some (dateOnly d.year (digitsValue month) (digitsValue date)) else none).bind
      Parts.moment? = Moment.midnight? d := by
  rw [hmonth.value, hdate.value]
  split_ifs with hlimits
  · rfl
  · have hvalid : ¬d.IsValid := by
      rintro ⟨-, ⟨hlow, hhigh⟩, hfirst, hlast⟩
      have hend : d.day ≤ 31 := hlast.trans (daysInMonth_le _ _)
      refine hlimits ⟨⟨hmonth.length (by omega), ?_⟩, hdate.length (by omega), ?_⟩
      · rw [hmonth.value]
        exact ⟨hlow, hhigh⟩
      · rw [hdate.value]
        exact ⟨hfirst, hend⟩
    rw [Moment.midnight?, Day.ofDate?_eq_none_iff.mpr hvalid]
    rfl

include hyear hlength hvalue

/-- Of the layouts that start with the month, the one with the right separator reads the text. -/
lemma readLayout?_monthDayYear (hc : c = '-' ∨ c = '/')
    (hs : ∀ b ∈ month ++ c :: (date ++ c :: year), isBlank b = false) :
    Moment.readLayout? (month ++ c :: (date ++ c :: year)) = Moment.midnight? d := by
  have hdecimal : isDecimal '-' = false ∧ isDecimal '/' = false := by decide
  have hcDecimal : isDecimal c = false := by
    rcases hc with rfl | rfl
    · exact hdecimal.1
    · exact hdecimal.2
  have hyearFirst : parse? (yearMonthDay '/') (month ++ c :: (date ++ c :: year)) = none := by
    by_cases hfour : '/' = c ∧ month.length = 4
    · obtain ⟨rfl, hfour⟩ := hfour
      rw [parse?_yearMonthDay hmonth.digits hdate.digits hyear hfour hdate.ne_nil hcDecimal]
      refine if_neg fun h => ?_
      have hshort := h.2.1
      omega
    · exact parse?_of_nil
        (number_eq_nil year_numbers hmonth.digits hmonth.ne_nil hcDecimal hdecimal.2 hfour)
  have hmidnight := midnight?_of_numerals hmonth hdate
  have hparse := fun (sep : Char) (hsep : isDecimal sep = false) => parse?_monthDayYear hyear
    hmonth.digits hdate.digits hlength hmonth.ne_nil hdate.ne_nil hcDecimal hsep
  rw [readLayout?_of_not_blank hs]
  simp only [List.findSome?_cons, List.findSome?_nil, hparse '-' hdecimal.1, hparse '/' hdecimal.2,
    hyearFirst, hvalue]
  rcases hc with rfl | rfl
  · have hne : '/' ≠ '-' := by decide
    simp only [hne, true_and, false_and, if_false, Option.bind_none, hmidnight]
    cases Moment.midnight? d <;> rfl
  · have hne : '-' ≠ '/' := by decide
    simp only [hne, true_and, false_and, if_false, Option.bind_none, hmidnight]
    cases Moment.midnight? d <;> rfl

/-- The layouts that start with the month have no place for a year at the start. -/
lemma readLayout?_yearMonthDay
    (hs : ∀ b ∈ year ++ '/' :: (month ++ '/' :: date), isBlank b = false) :
    Moment.readLayout? (year ++ '/' :: (month ++ '/' :: date)) = Moment.midnight? d := by
  have hdecimal : isDecimal '-' = false ∧ isDecimal '/' = false := by decide
  have hyearNe : year ≠ [] := by
    rintro rfl
    cases hlength
  have hnil : ∀ sep, isDecimal sep = false →
      monthDayYear sep (year ++ '/' :: (month ++ '/' :: date)) = [] := by
    intro sep hsep
    refine number_eq_nil month_numbers hyear hyearNe hdecimal.2 hsep fun h => ?_
    have hshort : year.length = 1 ∨ year.length = 2 := h.2.1
    omega
  have hmidnight := midnight?_of_numerals hmonth hdate
  have hparse := parse?_yearMonthDay hyear hmonth.digits hdate.digits hlength hmonth.ne_nil
    hdecimal.2
  rw [readLayout?_of_not_blank hs]
  simp only [List.findSome?_cons, List.findSome?_nil, parse?_of_nil (hnil '-' hdecimal.1),
    parse?_of_nil (hnil '/' hdecimal.2), hparse, hvalue, Option.bind_none, hmidnight]
  cases Moment.midnight? d <;> rfl

end Layouts

/-- A digit, or what stands between the numerals of a layout. -/
def IsLayoutChar (c : Char) : Prop := c.isDigit = true ∨ c = '-' ∨ c = '/'

lemma IsLayoutChar.not_isBlank {c : Char} (h : IsLayoutChar c) : isBlank c = false := by
  rcases h with h | rfl | rfl
  · exact not_isBlank_of_isDecimal (isDecimal_of_isDigit h)
  · rfl
  · rfl

lemma isLayoutChar_append {front back : List Char} {sep : Char}
    (hfront : ∀ c ∈ front, c.isDigit = true) (hsep : sep = '-' ∨ sep = '/')
    (hback : ∀ c ∈ back, IsLayoutChar c) : ∀ c ∈ front ++ sep :: back, IsLayoutChar c :=
  List.forall_mem_append.mpr ⟨fun c hc => Or.inl (hfront c hc),
    List.forall_mem_cons.mpr ⟨Or.inr hsep, hback⟩⟩

/-- The midnight of a layout is taken to be that of a universal clock. -/
lemma layoutText_midnight {s : List Char} {d : CivilDate}
    (h : Moment.readLayout? (trim s) = Moment.midnight? d) :
    if d.IsValid then
      ∃ m, layoutText s = .ok (some m) ∧ m.day = d ∧ m.time = .midnight ∧ m.offset = some 0
    else layoutText s = .ok none := by
  rw [layoutText, h, Moment.midnight?]
  by_cases hvalid : d.IsValid
  · rw [if_pos hvalid]
    obtain ⟨day, hday⟩ := Option.ne_none_iff_exists'.mp
      fun hnone => Day.ofDate?_eq_none_iff.mp hnone hvalid
    obtain ⟨m, hm, huniversal⟩ := Moment.exists_midnight day
    refine ⟨Moment.ofDay day, ?_, ?_, Moment.time_ofDay day, rfl⟩
    · rw [hday, Option.bind_some, hm]
      dsimp only
      rw [huniversal]
      rfl
    · rw [Moment.day_ofDay]
      exact (Day.ofDate?_eq_some_iff.mp hday).2
  · rw [if_neg hvalid, Day.ofDate?_eq_none_iff.mpr hvalid]
    rfl

/-- A text that is not of ISO 8601 and is read in a layout is the midnight of its day. -/
lemma dateText_layout {s : String} {d : CivilDate} {first rest : List Char} {sep : Char}
    (hs : s.toList = first ++ sep :: rest) (hne : first ≠ [])
    (hfirst : ∀ c ∈ first, c.isDigit = true) (hsep : sep = '-' ∨ sep = '/')
    (hrest : ∀ c ∈ rest, IsLayoutChar c) (hiso : Moment.readIso? (first ++ sep :: rest) = none)
    (hlayout : (∀ c ∈ first ++ sep :: rest, isBlank c = false) →
      Moment.readLayout? (first ++ sep :: rest) = Moment.midnight? d) :
    if d.IsValid then
      ∃ m, dateText none s = .ok (some m) ∧ m.day = d ∧ m.time = .midnight ∧ m.offset = some 0
    else dateText none s = .ok none := by
  have hchars : ∀ c ∈ s.toList, IsLayoutChar c := by
    rw [hs]
    exact isLayoutChar_append hfirst hsep hrest
  have hblank : ∀ c ∈ s.toList, isBlank c = false := fun c hc => (hchars c hc).not_isBlank
  have htext : isTimestampText s.toList = false := by
    obtain ⟨c, more, rfl⟩ := List.exists_cons_of_ne_nil hne
    have hhead : s.toList.head? = some c := by
      rw [hs]
      rfl
    have hin : sep ∈ s.toList := hs ▸ List.mem_append_right _ List.mem_cons_self
    refine isTimestampText_eq_false hhead
      (isDecimal_of_isDigit (hfirst c List.mem_cons_self)) hin ?_ ?_ ?_ <;>
      rcases hsep with rfl | rfl <;> decide
  have htrim : trim s.toList = s.toList := trim_eq_self hblank
  have hzulu : spellZulu s.toList = s.toList :=
    spellZulu_of_notMem fun hmem => by
      rcases hchars 'Z' hmem with h | h | h <;> cases h
  have hisoText : isoText s.toList = .ok none := by
    unfold isoText
    rw [htrim, hzulu, hs, hiso]
  have hread : dateText none s = layoutText s.toList := by
    rw [dateText_none htext, hisoText]
    generalize layoutText s.toList = result
    rfl
  rw [hs] at hblank
  rw [hread]
  exact layoutText_midnight (by rw [htrim, hs, hlayout hblank])

/-- Each text of a day in a layout is read as the midnight of the day, or is no date. -/
lemma dateText_of_mem {d : CivilDate} (hyear : d.year < 10000) (hmonth : d.month < 10 ^ 7)
    {s : String} (hs : s ∈ d.layoutTexts) :
    if d.IsValid then
      ∃ m, dateText none s = .ok (some m) ∧ m.day = d ∧ m.time = .midnight ∧ m.offset = some 0
    else dateText none s = .ok none := by
  obtain ⟨month, hm, hs⟩ := List.mem_flatMap.mp hs
  obtain ⟨day, hd, hs⟩ := List.mem_flatMap.mp hs
  have hseven := (denotes_of_mem hm).length_le (by decide) hmonth
  have hmonth := denotes_of_mem hm
  have hday := denotes_of_mem hd
  have hlength : (padded 4 d.year).length = 4 := length_padded (by decide) hyear
  have hdigits := isDigit_padded 4 d.year
  have hvalue := digitsValue_padded 4 d.year
  have hlist : (padZeros 4 (natText d.year)).toList = padded 4 d.year := by rw [padded]
  have hyearChars : ∀ c ∈ padded 4 d.year, IsLayoutChar c := fun c hc => Or.inl (hdigits c hc)
  have hdayChars : ∀ c ∈ day.toList, IsLayoutChar c := fun c hc => Or.inl (hday.digits c hc)
  simp only [List.mem_cons, List.not_mem_nil, or_false] at hs
  rcases hs with rfl | rfl | rfl
  · have hs : (month ++ "-" ++ day ++ "-" ++ padZeros 4 (natText d.year)).toList =
        month.toList ++ '-' :: (day.toList ++ '-' :: padded 4 d.year) := by simp [hlist]
    exact dateText_layout hs hmonth.ne_nil hmonth.digits (Or.inl rfl)
      (isLayoutChar_append hday.digits (Or.inl rfl) hyearChars)
      (readIso?_monthFirst hmonth.digits hseven (Or.inl rfl) hday.digits hday.ne_nil hlength)
      (readLayout?_monthDayYear hdigits hlength hvalue hmonth hday (Or.inl rfl))
  · have hs : (month ++ "/" ++ day ++ "/" ++ padZeros 4 (natText d.year)).toList =
        month.toList ++ '/' :: (day.toList ++ '/' :: padded 4 d.year) := by simp [hlist]
    exact dateText_layout hs hmonth.ne_nil hmonth.digits (Or.inr rfl)
      (isLayoutChar_append hday.digits (Or.inr rfl) hyearChars)
      (readIso?_monthFirst hmonth.digits hseven (Or.inr rfl) hday.digits hday.ne_nil hlength)
      (readLayout?_monthDayYear hdigits hlength hvalue hmonth hday (Or.inr rfl))
  · have hs : (padZeros 4 (natText d.year) ++ "/" ++ month ++ "/" ++ day).toList =
        padded 4 d.year ++ '/' :: (month.toList ++ '/' :: day.toList) := by simp [hlist]
    have hyearNe : padded 4 d.year ≠ [] := List.ne_nil_of_length_eq_add_one hlength
    exact dateText_layout hs hyearNe hdigits (Or.inr rfl)
      (isLayoutChar_append hmonth.digits (Or.inr rfl) hdayChars)
      (readIso?_yearFirst hlength)
      (readLayout?_yearMonthDay hdigits hlength hvalue hmonth hday)

namespace Value

/-- Dates survive being written and read. A moment on a universal clock is read back from its text,
with and without the format for ISO 8601 texts. The texts of a day in the layouts of numerals are
read as midnight of that day on a universal clock if the calendar has it, and as no date otherwise.
The layouts have two places for a month; with eight digits there, a text could start with a whole
date of ISO 8601. -/
theorem toMoment_written :
    (∀ m : Moment, m.offset = some 0 → (str m.text).toMoment none = .ok (some m) ∧
      (str m.text).toMoment (some .iso) = .ok (some m)) ∧
    ∀ d : CivilDate, d.year < 10000 → d.month < 10 ^ 7 → ∀ s ∈ d.layoutTexts,
      if d.IsValid then
        ∃ m, (str s).toMoment none = .ok (some m) ∧ m.day = d ∧ m.time = .midnight ∧
          m.offset = some 0
      else (str s).toMoment none = .ok none :=
  ⟨fun _ h => toMoment_text h, fun _ hyear hmonth _ hs => dateText_of_mem hyear hmonth hs⟩

/-- The last microsecond of the calendar, and the leap day of a year that has one and of one that
has none. -/
theorem toMoment_written_leap :
    (∃ m, (str "9999-12-31T23:59:59.999999+00:00").toMoment none = .ok (some m) ∧
      (str "9999-12-31T23:59:59.999999+00:00").toMoment (some .iso) = .ok (some m) ∧
      m.clock = 315537897599999999 ∧ m.offset = some 0) ∧
    (∃ m, (str "2/29/2024").toMoment none = .ok (some m) ∧ m.day = ⟨2024, 2, 29⟩ ∧
      m.time = .midnight ∧ m.offset = some 0) ∧
    (str "02-29-2023").toMoment none = .ok none := by
  obtain ⟨hmoments, hdays⟩ := toMoment_written
  let last : Moment := ⟨315537897599999999, some 0, by decide⟩
  have htext : last.text = "9999-12-31T23:59:59.999999+00:00" := by decide +kernel
  have hleap : CivilDate.IsValid ⟨2024, 2, 29⟩ := by decide
  have hcommon : ¬CivilDate.IsValid ⟨2023, 2, 29⟩ := by decide
  have hread := hdays ⟨2024, 2, 29⟩ (by decide) (by decide) "2/29/2024" (by decide +kernel)
  have hrefused := hdays ⟨2023, 2, 29⟩ (by decide) (by decide) "02-29-2023" (by decide +kernel)
  rw [if_pos hleap] at hread
  rw [if_neg hcommon] at hrefused
  refine ⟨⟨last, ?_, ?_, rfl, rfl⟩, hread, hrefused⟩
  · exact htext ▸ (hmoments last rfl).1
  · exact htext ▸ (hmoments last rfl).2

end Value

end InputGuard

import InputGuard.Proofs.CalendarDays

/-!
# How ISO 8601 texts are read

The digits of a numeral are read as they stand. From this follows what is read of a day and of a
clock, part by part: in a text that is put together from its parts each of them is read in its turn.
-/

namespace InputGuard

open Unicode

variable {s rest : List Char} {n value : ℕ}

lemma spellZulu_of_notMem (h : 'Z' ∉ s) : spellZulu s = s := by
  induction s with
  | nil => rfl
  | cons c rest ih =>
    have hc : c ≠ 'Z' := fun hc => h (hc ▸ List.mem_cons_self)
    have hrest := ih fun hmem => h (List.mem_cons_of_mem c hmem)
    unfold spellZulu at hrest ⊢
    rw [List.flatMap_cons, if_neg hc, hrest]
    rfl

lemma head?_of_peek {c : Char} (hc : c ≠ '\x00') (h : peek s = c) : s.head? = some c := by
  cases s with
  | nil => exact absurd h.symm hc
  | cons d rest => exact congrArg some h

/-- Digits are read as they stand, after those of a value that is already there. -/
lemma takeDigits?_eq_some {start : ℕ} (h : takeDigits? n start s = some (value, rest)) :
    ∃ ds, s = ds ++ rest ∧ ds.length = n ∧ (∀ c ∈ ds, c.isDigit = true) ∧
      value = ds.foldl (fun n c => 10 * n + (c.toNat - 48)) start := by
  induction n generalizing s start with
  | zero =>
    obtain ⟨rfl, rfl⟩ := Prod.mk.inj (Option.some.inj h)
    exact ⟨[], rfl, rfl, nofun, rfl⟩
  | succ n ih =>
    cases s with
    | nil => cases h
    | cons c more =>
      unfold takeDigits? at h
      by_cases hdigit : (peek (c :: more)).isDigit = true
      · rw [if_pos hdigit] at h
        obtain ⟨ds, htail, hlength, hdigits, hvalue⟩ := ih h
        refine ⟨c :: ds, congrArg (c :: ·) htail, congrArg (· + 1) hlength, ?_, hvalue⟩
        exact List.forall_mem_cons.mpr ⟨hdigit, hdigits⟩
      · rw [if_neg hdigit] at h
        cases h

/-- Digits in the place of a numeral are the numeral. -/
lemma takeDigits?_append {ds : List Char} (hds : ds.length = n) : takeDigits? n 0 (ds ++ rest) =
    if IsDigits ds then some (digitsValue ds, rest) else none := by
  have hstart : ∀ start, takeDigits? n start (ds ++ rest) = if IsDigits ds then
      some (ds.foldl (fun n c => 10 * n + (c.toNat - 48)) start, rest) else none := by
    induction ds generalizing n with
    | nil =>
      subst hds
      intro start
      rw [if_pos isDigits_nil]
      rfl
    | cons c ds ih =>
      subst hds
      intro start
      change (if c.isDigit = true then takeDigits? ds.length _ (ds ++ rest) else none) = _
      simp only [isDigits_cons]
      by_cases hc : c.isDigit = true
      · rw [if_pos hc, ih rfl]
        simp only [hc, true_and]
        rfl
      · rw [if_neg hc, if_neg fun h => hc h.1]
  exact hstart 0

lemma spellZulu_append (front back : List Char) :
    spellZulu (front ++ back) = spellZulu front ++ spellZulu back := List.flatMap_append

/-- Without a dash or a week after the year, a day is read from eight digits. -/
lemma isoDay?_eq_some {length : ℕ} {day : Day} (hdash : (s.drop 4).head? ≠ some '-')
    (hweek : (s.drop 4).head? ≠ some 'W') (h : isoDay? s length = some day) :
    ∃ year month date rest, s = year ++ (month ++ (date ++ rest)) ∧ year.length = 4 ∧
      month.length = 2 ∧ date.length = 2 ∧
      (∀ c ∈ year ++ (month ++ date), c.isDigit = true) ∧
      Day.ofDate? ⟨digitsValue year, digitsValue month, digitsValue date⟩ = some day := by
  unfold isoDay? at h
  obtain ⟨⟨y, s₁⟩, hyear, h⟩ := Option.bind_eq_some_iff.mp h
  obtain ⟨year, rfl, hyearlen, hyeardigits, rfl⟩ := takeDigits?_eq_some hyear
  rw [List.drop_left' hyearlen] at hdash hweek
  have hpeek : peek s₁ ≠ '-' := fun hpeek => hdash (head?_of_peek (by decide) hpeek)
  have hpeek' : peek s₁ ≠ 'W' := fun hpeek => hweek (head?_of_peek (by decide) hpeek)
  have hdashed : (peek s₁ == '-') = false := beq_eq_false_iff_ne.mpr hpeek
  dsimp only at h
  -- what is left of the cases is a month and a day without dashes
  simp only [hdashed, Bool.false_eq_true, if_false, if_neg hpeek'] at h
  obtain ⟨⟨m, s₂⟩, hmonth, h⟩ := Option.bind_eq_some_iff.mp h
  obtain ⟨month, rfl, hmonthlen, hmonthdigits, rfl⟩ := takeDigits?_eq_some hmonth
  obtain ⟨s₃, hs₃, h⟩ := Option.bind_eq_some_iff.mp h
  obtain rfl := Option.some.inj hs₃
  obtain ⟨⟨d, s₄⟩, hdate, h⟩ := Option.bind_eq_some_iff.mp h
  obtain ⟨date, rfl, hdatelen, hdatedigits, rfl⟩ := takeDigits?_eq_some hdate
  refine ⟨year, month, date, s₄, rfl, hyearlen, hmonthlen, hdatelen, ?_, h⟩
  intro c hc
  rcases List.mem_append.mp hc with hc | hc
  · exact hyeardigits c hc
  · exact (List.mem_append.mp hc).elim (hmonthdigits c) (hdatedigits c)

/-- After a year and a dash come two digits and another dash. -/
lemma exists_dash {year : List Char} (hyear : year.length = 4) (hweek : rest.head? ≠ some 'W')
    {length : ℕ} {day : Day} (h : isoDay? (year ++ '-' :: rest) length = some day) :
    ∃ month more, rest = month ++ '-' :: more ∧ month.length = 2 ∧
      ∀ c ∈ month, c.isDigit = true := by
  have hpeek : peek rest ≠ 'W' := fun hpeek => hweek (head?_of_peek (by decide) hpeek)
  have hdash : (peek ('-' :: rest) == '-') = true := rfl
  unfold isoDay? at h
  obtain ⟨⟨y, s₁⟩, hy, h₁⟩ := Option.bind_eq_some_iff.mp h
  obtain ⟨ds, hs, hlength, -, -⟩ := takeDigits?_eq_some hy
  obtain ⟨-, rfl⟩ := List.append_inj hs (hyear.trans hlength.symm)
  simp only [hdash, if_true, List.tail_cons, if_neg hpeek] at h₁
  obtain ⟨⟨m, s₂⟩, hmonth, h₂⟩ := Option.bind_eq_some_iff.mp h₁
  obtain ⟨month, rfl, hmonthlen, hdigits, -⟩ := takeDigits?_eq_some hmonth
  obtain ⟨s₃, hs₃, -⟩ := Option.bind_eq_some_iff.mp h₂
  dsimp only at hs₃
  split_ifs at hs₃ with hpeek₂
  obtain ⟨more, rfl⟩ := List.head?_eq_some_iff.mp (head?_of_peek (by decide) hpeek₂)
  exact ⟨month, more, rfl, hmonthlen, hdigits⟩

/-- A day is read from four digits on, which are its year. -/
lemma exists_year {length : ℕ} {day : Day} (h : isoDay? s length = some day) :
    ∃ ds rest, s = ds ++ rest ∧ ds.length = 4 ∧ ∀ c ∈ ds, c.isDigit = true := by
  unfold isoDay? at h
  obtain ⟨⟨y, rest⟩, hyear, -⟩ := Option.bind_eq_some_iff.mp h
  obtain ⟨ds, hs, hlength, hdigits, -⟩ := takeDigits?_eq_some hyear
  exact ⟨ds, rest, hs, hlength, hdigits⟩

section Clock

variable {ds : List Char} {i : ℕ} {colons : Bool} {t : TimeOfDay} {left : ℤ}

lemma endsClock_of_le {c : Char} (h : left ≤ 0) : endsClock left c = true := by
  rw [endsClock, decide_eq_true h, Bool.true_or]

lemma endsClock_of_lt {c : Char} (h : 1 < left) : endsClock left c = false := by
  rw [endsClock, decide_eq_false (by omega), decide_eq_false (by omega), Bool.false_and, Bool.or_self]

/-- Two digits at the end of the clock are its last part. -/
lemma readClock?_last (hds : ds.length = 2) (hleft : left ≤ 2) :
    readClock? (n + 1) i colons t (ds ++ rest) left =
      if IsDigits ds then some ⟨t.set i (digitsValue ds), peek rest == '\x00'⟩
      else none := by
  unfold readClock?
  rw [takeDigits?_append hds]
  split
  · dsimp only [Option.bind_eq_bind, Option.bind_some]
    rw [if_pos (endsClock_of_le (by omega))]
  · rfl

/-- After a colon comes the next part. -/
lemma readClock?_colon (hds : ds.length = 2) (hleft : 3 < left) (hcolons : i = 0 ∨ colons = true) :
    readClock? (n + 1) i colons t (ds ++ ':' :: rest) left =
      if IsDigits ds then
        readClock? n (i + 1) true (t.set i (digitsValue ds)) rest (left - 3)
      else none := by
  have hcolon : (if i = 0 then peek (':' :: rest) == ':' else colons) = true := by
    rcases hcolons with rfl | rfl
    · rfl
    · exact ite_self _
  rw [readClock?, takeDigits?_append hds]
  split
  · dsimp only [Option.bind_eq_bind, Option.bind_some]
    rw [endsClock_of_lt (by omega), if_neg Bool.false_ne_true, hcolon]
    rfl
  · rfl

/-- After a point comes the fraction. -/
lemma readClock?_point (hds : ds.length = 2) (hleft : 3 < left) :
    readClock? (n + 1) i colons t (ds ++ '.' :: rest) left =
      if IsDigits ds then
        readFraction? (t.set i (digitsValue ds)) rest (left - 3).toNat
      else none := by
  rw [readClock?, takeDigits?_append hds]
  split
  · dsimp only [Option.bind_eq_bind, Option.bind_some]
    rw [endsClock_of_lt (by omega), if_neg Bool.false_ne_true, if_neg (by simp [peek])]
    rfl
  · rfl

/-- Minutes may follow the hour without a colon. -/
lemma readClock?_bare {c : Char} (hds : ds.length = 2) (hleft : 3 < left)
    (hc : isDecimal c = true) :
    readClock? (n + 1) 0 colons t (ds ++ c :: rest) left =
      if IsDigits ds then
        readClock? n 1 false (t.set 0 (digitsValue ds)) (c :: rest) (left - 2)
      else none := by
  have hmark : c ≠ ':' ∧ c ≠ '.' ∧ c ≠ ',' := by
    refine ⟨?_, ?_, ?_⟩ <;> rintro rfl <;> cases hc
  rw [readClock?, takeDigits?_append hds]
  split
  · dsimp only [Option.bind_eq_bind, Option.bind_some]
    have hcolons : (c == ':') = false := beq_eq_false_iff_ne.mpr hmark.1
    rw [endsClock_of_lt (by omega), if_neg Bool.false_ne_true]
    simp [peek, hmark, hcolons]
  · rfl

/-- Of a fraction only six digits have to be digits of the basic Latin block. -/
lemma readFraction?_append (t : TimeOfDay) (fs rest : List Char) :
    readFraction? t (fs ++ rest) fs.length =
      if IsDigits (fs.take 6) then
        some ⟨{ t with micro := digitsValue (fs.take 6) * tenTo (6 - min 6 fs.length) },
          peek ((fs.drop 6 ++ rest).dropWhile Char.isDigit) == '\x00'⟩
      else none := by
  have hsplit : fs ++ rest = fs.take 6 ++ (fs.drop 6 ++ rest) := by
    rw [← List.append_assoc, List.take_append_drop]
  unfold readFraction?
  dsimp only
  rw [hsplit, takeDigits?_append List.length_take]
  split
  · rfl
  · rfl

lemma eq_nil_of_peek (hs : '\x00' ∉ s) (h : peek s = '\x00') : s = [] := by
  cases s with
  | nil => rfl
  | cons c rest => exact absurd (h ▸ List.mem_cons_self) hs

/-- A character of the text of a clock. -/
def IsClockChar (c : Char) : Prop := c.isDigit = true ∨ c = ':' ∨ c = '.' ∨ c = ','

lemma readFraction?_complete {left : ℕ} (hs : '\x00' ∉ s) {time : TimeOfDay}
    (h : readFraction? t s left = some ⟨time, true⟩) : ∀ c ∈ s, c.isDigit = true := by
  unfold readFraction? at h
  obtain ⟨⟨v, rest⟩, hdigits, hend⟩ := Option.bind_eq_some_iff.mp h
  obtain ⟨ds, rfl, -, hds, -⟩ := takeDigits?_eq_some hdigits
  have hpeek : peek (rest.dropWhile Char.isDigit) = '\x00' :=
    beq_iff_eq.mp (ClockText.mk.inj (Option.some.inj hend)).2
  have hnot : '\x00' ∉ rest.dropWhile Char.isDigit := fun hmem =>
    hs (List.mem_append_right _ ((List.dropWhile_sublist _).mem hmem))
  have hend := List.dropWhile_eq_nil_iff.mp (eq_nil_of_peek hnot hpeek)
  exact List.forall_mem_append.mpr ⟨hds, hend⟩

/-- What is read to its end has only digits and the marks between them. -/
lemma readClock?_complete (hs : '\x00' ∉ s) {time : TimeOfDay}
    (h : readClock? n i colons t s left = some ⟨time, true⟩) : ∀ c ∈ s, IsClockChar c := by
  induction n generalizing i colons t s left with
  | zero => exact fun c hc => Or.inl (readFraction?_complete hs h c hc)
  | succ n ih =>
    unfold readClock? at h
    obtain ⟨⟨v, rest⟩, hdigits, hnext⟩ := Option.bind_eq_some_iff.mp h
    clear h
    obtain ⟨ds, rfl, -, hds, -⟩ := takeDigits?_eq_some hdigits
    have hrest : '\x00' ∉ rest := fun hmem => hs (List.mem_append_right _ hmem)
    have htail : '\x00' ∉ rest.tail := fun hmem => hrest (List.mem_of_mem_tail hmem)
    refine List.forall_mem_append.mpr ⟨fun c hc => Or.inl (hds c hc), ?_⟩
    have hcons : ∀ d, peek rest = d → IsClockChar d →
        (∀ c ∈ rest.tail, IsClockChar c) → ∀ c ∈ rest, IsClockChar c := by
      intro d hpeek hchar hchars
      cases rest with
      | nil => exact nofun
      | cons e more =>
        obtain rfl : e = d := hpeek
        exact List.forall_mem_cons.mpr ⟨hchar, hchars⟩
    dsimp only at hnext
    generalize (if i = 0 then peek rest == ':' else colons) = colons' at hnext
    split_ifs at hnext with hlast hcolon hpoint
    · have hpeek := beq_iff_eq.mp (ClockText.mk.inj (Option.some.inj hnext)).2
      rw [eq_nil_of_peek hrest hpeek]
      exact nofun
    · rw [Bool.and_eq_true, decide_eq_true_iff] at hcolon
      exact hcons ':' hcolon.2 (Or.inr (Or.inl rfl)) (ih htail hnext)
    · rw [Bool.or_eq_true, decide_eq_true_iff, decide_eq_true_iff] at hpoint
      have hfraction : ∀ c ∈ rest.tail, IsClockChar c := fun c hc =>
        Or.inl (readFraction?_complete htail hnext c hc)
      rcases hpoint with hpoint | hcomma
      · exact hcons '.' hpoint (by simp [IsClockChar]) hfraction
      · exact hcons ',' hcomma (by simp [IsClockChar]) hfraction
    · exact ih hrest hnext

/-- A time of day without an offset is read to its end. -/
lemma isoTime?_naive (hs : ∀ c ∈ s, isOffsetStart c = false) :
    isoTime? s = (readClock? 3 0 true .midnight s s.length).bind fun text =>
      if text.complete then some (text.time, none) else none := by
  have hclock : s.takeWhile (fun c => !isOffsetStart c) = s :=
    List.takeWhile_eq_self_iff.mpr fun c hc => by rw [hs c hc]; rfl
  unfold isoTime?
  dsimp only
  rw [hclock, List.drop_length]
  rfl

/-- A sign is the start of an offset, which is a clock text itself. -/
lemma isoTime?_signed {clock : List Char} {sign : Char}
    (hclock : ∀ c ∈ clock, isOffsetStart c = false) (hsign : sign = '+' ∨ sign = '-') :
    isoTime? (clock ++ sign :: rest) =
      (readClock? 3 0 true .midnight (clock ++ sign :: rest) clock.length).bind fun text =>
        (readClock? 3 0 true .midnight rest rest.length).bind fun offset =>
          if offset.complete then
            (offsetOf? (sign == '-') offset.time).map fun o => (text.time, some o)
          else none := by
  have hstop : isOffsetStart sign = true := by rcases hsign with rfl | rfl <;> rfl
  have htake : (clock ++ sign :: rest).takeWhile (fun c => !isOffsetStart c) = clock := by
    rw [List.takeWhile_append_of_pos fun c hc => by rw [hclock c hc]; rfl,
      List.takeWhile_cons_of_neg (by rw [hstop]; decide), List.append_nil]
  unfold isoTime?
  dsimp only
  rw [htake, List.drop_left]
  refine Option.bind_congr fun text _ => ?_
  rcases hsign with rfl | rfl
  · refine Option.bind_congr fun offset _ => ?_
    split
    · cases offsetOf? _ offset.time <;> rfl
    · rfl
  · refine Option.bind_congr fun offset _ => ?_
    split
    · cases offsetOf? _ offset.time <;> rfl
    · rfl

/-- Less than a day has less than twenty-four hours. -/
lemma hour_lt_of_offsetOf? {negative : Bool} {hour minute : ℕ} {offset : ℤ}
    (h : offsetOf? negative ⟨hour, minute, 0, 0⟩ = some offset) : hour < 24 := by
  unfold offsetOf? microsPerDay microsPerSecond at h
  dsimp only at h
  split_ifs at h <;> omega

end Clock

lemma isoDateLength?_dashed {year month : List Char} (hyear : year.length = 4)
    (hmonth : month.length = 2) (hweek : month.head? ≠ some 'W') (hrest : 3 ≤ rest.length) :
    isoDateLength? (year ++ '-' :: (month ++ rest)) = some 10 := by
  have hfour : (year ++ '-' :: (month ++ rest))[4]? = some '-' := by
    rw [List.getElem?_append_right hyear.le, hyear]
    rfl
  have hfive : (year ++ '-' :: (month ++ rest))[5]? ≠ some 'W' := by
    obtain ⟨a, b, rfl⟩ := List.length_eq_two.mp hmonth
    rw [List.getElem?_append_right (by omega), hyear]
    exact hweek
  unfold isoDateLength?
  rw [if_neg, if_pos hfour, if_neg hfive]
  rw [List.length_append, List.length_cons, List.length_append]
  omega

/-- The parts of a date with dashes are digits of the basic Latin block. -/
lemma isoDay?_dashed {year month date : List Char} (hyear : year.length = 4)
    (hmonth : month.length = 2) (hdate : date.length = 2) (hweek : month.head? ≠ some 'W')
    {length : ℕ} : isoDay? (year ++ '-' :: (month ++ '-' :: (date ++ rest))) length =
      if IsDigits (year ++ (month ++ date)) then
        Day.ofDate? ⟨digitsValue year, digitsValue month, digitsValue date⟩
      else none := by
  have hpeek : peek (month ++ '-' :: (date ++ rest)) ≠ 'W' := by
    obtain ⟨a, b, rfl⟩ := List.length_eq_two.mp hmonth
    exact fun h => hweek (congrArg some h)
  unfold isoDay?
  rw [takeDigits?_append hyear]
  simp only [isDigits_append, ite_and]
  split
  · dsimp only [Option.bind_eq_bind, Option.bind_some]
    have hdash : (peek ('-' :: (month ++ '-' :: (date ++ rest))) == '-') = true := rfl
    simp only [hdash, if_true, List.tail_cons]
    rw [if_neg hpeek, takeDigits?_append hmonth]
    split
    · dsimp only [Option.bind_some]
      rw [if_pos (by rfl)]
      dsimp only [Option.bind_some, List.tail_cons]
      rw [takeDigits?_append hdate]
      split
      · rfl
      · rfl
    · rfl
  · rfl

/-- After ten characters comes the time. -/
lemma readIso?_dashed {year month date : List Char} (hyear : year.length = 4)
    (hmonth : month.length = 2) (hdate : date.length = 2) (hweek : month.head? ≠ some 'W') :
    Moment.readIso? (year ++ '-' :: (month ++ '-' :: (date ++ rest))) =
      if IsDigits (year ++ (month ++ date)) then
        (Day.ofDate? ⟨digitsValue year, digitsValue month, digitsValue date⟩).bind fun day =>
          (match rest with
            | [] => some (TimeOfDay.midnight, none)
            | _ :: time => isoTime? time).bind fun time => Moment.ofDay? day time.1 time.2
      else none := by
  have hlong : ¬(year ++ '-' :: (month ++ '-' :: (date ++ rest))).length < 7 := by
    simp only [List.length_append, List.length_cons]
    omega
  have hthree : 3 ≤ ('-' :: (date ++ rest)).length := by
    rw [List.length_cons, List.length_append]
    omega
  have hten := isoDateLength?_dashed hyear hmonth hweek hthree
  have hdrop : (year ++ '-' :: (month ++ '-' :: (date ++ rest))).drop 10 = rest := by
    have hfront : (year ++ ('-' :: month ++ '-' :: date)).length = 10 := by
      simp only [List.length_append, List.length_cons]
      omega
    have hassoc : year ++ '-' :: (month ++ '-' :: (date ++ rest)) =
        (year ++ ('-' :: month ++ '-' :: date)) ++ rest := by simp
    rw [hassoc, List.drop_left' hfront]
  unfold Moment.readIso?
  rw [if_neg hlong, hten]
  dsimp only [Option.bind_eq_bind, Option.bind_some, pure_bind]
  rw [isoDay?_dashed hyear hmonth hdate hweek, hdrop]
  split
  · cases rest with
    | nil => rfl
    | cons c time => rfl
  · rfl

section Moments

variable {m : Moment}

/-- A text in which a moment is read starts with a day, after which it ends or has the time. -/
lemma readIso?_eq_some (h : Moment.readIso? s = some m) :
    ∃ length day, isoDateLength? s = some length ∧ isoDay? s length = some day ∧
      (s.drop length = [] → Moment.ofDay? day .midnight none = some m) := by
  unfold Moment.readIso? at h
  dsimp only at h
  split at h
  · cases h
  · obtain ⟨length, hlength, h⟩ := Option.bind_eq_some_iff.mp h
    obtain ⟨day, hday, h⟩ := Option.bind_eq_some_iff.mp h
    refine ⟨length, day, hlength, hday, fun hend => ?_⟩
    generalize s.drop length = rest at h hend
    subst hend
    rwa [pure_bind] at h

lemma isoText_eq_ok {s : List Char} {m : Moment} (h : isoText s = .ok (some m)) :
    ∃ m₀, Moment.readIso? (spellZulu (trim s)) = some m₀ ∧ m₀.universal = .ok m := by
  unfold isoText at h
  cases hread : Moment.readIso? (spellZulu (trim s)) with
  | none =>
    rw [hread] at h
    cases h
  | some m₀ =>
    rw [hread] at h
    obtain ⟨u, hu, heq⟩ := map_eq_ok.mp h
    exact ⟨m₀, rfl, Option.some.inj heq ▸ hu⟩

end Moments

end InputGuard

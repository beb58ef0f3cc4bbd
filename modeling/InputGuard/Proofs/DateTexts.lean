import InputGuard.Proofs.IsoForms
import InputGuard.Proofs.IsoReadings

/-!
# Texts of dates with dashes

A text of a date with dashes, and of a time with colons after it, is put together from numerals of
two or four digits. What is read of it is read off the numerals.
-/

namespace InputGuard

open Unicode

/-- A numeral of `n` digits, in whatever script. -/
def IsNumeral (n : ℕ) (cs : List Char) : Prop := cs.length = n ∧ ∀ c ∈ cs, isDecimal c = true

lemma isNumeral_zeros : IsNumeral 2 ['0', '0'] := ⟨rfl, List.all_eq_true.mp (by decide)⟩

/-- Characters that are decimal digits or stand between the numerals of a text. -/
def IsDateChar (c : Char) : Prop := isDecimal c = true ∨ c ∈ ['-', ':', '.', 'T', '+', 'Z']

/-- The seconds of a time, with or without a fraction. -/
inductive SecondsText
  | absent
  | whole (second : List Char)
  | fractional (second fraction : List Char)

namespace SecondsText

def chars : SecondsText → List Char
  | absent => []
  | whole second => ':' :: second
  | fractional second fraction => ':' :: (second ++ '.' :: fraction)

def WellFormed : SecondsText → Prop
  | absent => True
  | whole second => IsNumeral 2 second
  | fractional second fraction =>
    IsNumeral 2 second ∧ fraction ≠ [] ∧ ∀ c ∈ fraction, isDecimal c = true

/-- The digits that count; a fraction has six of them. -/
def digits : SecondsText → List Char
  | absent => []
  | whole second => second
  | fractional second fraction => second ++ fraction.take 6

def addTo (t : TimeOfDay) : SecondsText → TimeOfDay
  | absent => t
  | whole second => { t with second := digitsValue second }
  | fractional second fraction =>
    { t with
      second := digitsValue second
      micro := digitsValue (fraction.take 6) * tenTo (6 - min 6 fraction.length) }

end SecondsText

/-- The numerals of a time of day. -/
structure TimeText where
  hour : List Char
  minute : List Char
  seconds : SecondsText

namespace TimeText

def chars (t : TimeText) : List Char := t.hour ++ ':' :: (t.minute ++ t.seconds.chars)

structure WellFormed (t : TimeText) : Prop where
  hour : IsNumeral 2 t.hour
  minute : IsNumeral 2 t.minute
  seconds : t.seconds.WellFormed

def digits (t : TimeText) : List Char := t.hour ++ (t.minute ++ t.seconds.digits)

/-- The time that the numerals denote. -/
def value (t : TimeText) : TimeOfDay :=
  t.seconds.addTo ⟨digitsValue t.hour, digitsValue t.minute, 0, 0⟩

end TimeText

/-- What a text says about universal time: nothing, that it is the time, or how far away the time
is. -/
inductive ZoneText
  | absent
  | zulu
  | hours (sign : Char) (hour : List Char)
  | minutes (sign : Char) (hour : List Char) (colon : Bool) (minute : List Char)

namespace ZoneText

def chars : ZoneText → List Char
  | absent => []
  | zulu => ['Z']
  | hours sign hour => sign :: hour
  | minutes sign hour colon minute =>
    sign :: (hour ++ ((if colon then [':'] else []) ++ minute))

def WellFormed : ZoneText → Prop
  | absent => True
  | zulu => True
  | hours sign hour => (sign = '+' ∨ sign = '-') ∧ IsNumeral 2 hour
  | minutes sign hour _ minute =>
    (sign = '+' ∨ sign = '-') ∧ IsNumeral 2 hour ∧ IsNumeral 2 minute

/-- The zone with a zero offset in the place of universal time. -/
def spelled : ZoneText → ZoneText
  | zulu => minutes '+' ['0', '0'] true ['0', '0']
  | zone => zone

def digits : ZoneText → List Char
  | absent => []
  | zulu => []
  | hours _ hour => hour
  | minutes _ hour _ minute => hour ++ minute

/-- The hour and the minute of an offset. -/
def time : ZoneText → TimeOfDay
  | absent => .midnight
  | zulu => .midnight
  | hours _ hour => ⟨digitsValue hour, 0, 0, 0⟩
  | minutes _ hour _ minute => ⟨digitsValue hour, digitsValue minute, 0, 0⟩

end ZoneText

/-- The numerals of a date, and of a time in a zone if there is one. -/
structure DateText where
  year : List Char
  month : List Char
  date : List Char
  time : Option (TimeText × ZoneText)

namespace DateText

def timeChars : Option (TimeText × ZoneText) → List Char
  | none => []
  | some (t, zone) => 'T' :: (t.chars ++ zone.chars)

def chars (t : DateText) : List Char :=
  t.year ++ '-' :: (t.month ++ '-' :: (t.date ++ timeChars t.time))

structure WellFormed (t : DateText) : Prop where
  year : IsNumeral 4 t.year
  month : IsNumeral 2 t.month
  date : IsNumeral 2 t.date
  time : ∀ clock zone, t.time = some (clock, zone) → clock.WellFormed ∧ zone.WellFormed

/-- The day that the numerals denote. -/
def civil (t : DateText) : CivilDate :=
  ⟨digitsValue t.year, digitsValue t.month, digitsValue t.date⟩

def zone (t : DateText) : ZoneText := (t.time.map Prod.snd).getD .absent

end DateText

namespace IsDateChar

variable {c : Char}

lemma of_isDecimal (h : isDecimal c = true) : IsDateChar c := Or.inl h

lemma not_isBlank (h : IsDateChar c) : isBlank c = false := by
  rcases h with h | h
  · exact not_isBlank_of_isDecimal h
  · exact List.forall_iff_forall_mem.mp (by decide : List.Forall (isBlank · = false)
      ['-', ':', '.', 'T', '+', 'Z']) c h

lemma ne_nul (h : IsDateChar c) : c ≠ '\x00' := by
  rintro rfl
  exact h.elim (by decide) (by decide)

end IsDateChar

lemma IsNumeral.isDateChar {n : ℕ} {cs : List Char} (h : IsNumeral n cs) :
    ∀ c ∈ cs, IsDateChar c := fun c hc => .of_isDecimal (h.2 c hc)

/-- The characters of a clock are digits or stand between numerals. -/
lemma TimeText.WellFormed.mem_chars {t : TimeText} (h : t.WellFormed) :
    ∀ c ∈ t.chars, isDecimal c = true ∨ c = ':' ∨ c = '.' := by
  have hseconds : ∀ c ∈ t.seconds.chars, isDecimal c = true ∨ c = ':' ∨ c = '.' := by
    have hwf := h.seconds
    cases hs : t.seconds with
    | absent => exact nofun
    | whole second =>
      rw [hs] at hwf
      exact List.forall_mem_cons.mpr ⟨Or.inr (Or.inl rfl), fun c hc => Or.inl (hwf.2 c hc)⟩
    | fractional second fraction =>
      rw [hs] at hwf
      refine List.forall_mem_cons.mpr ⟨Or.inr (Or.inl rfl), List.forall_mem_append.mpr ⟨?_, ?_⟩⟩
      · exact fun c hc => Or.inl (hwf.1.2 c hc)
      · exact List.forall_mem_cons.mpr ⟨Or.inr (Or.inr rfl), fun c hc => Or.inl (hwf.2.2 c hc)⟩
  refine List.forall_mem_append.mpr ⟨fun c hc => Or.inl (h.hour.2 c hc), ?_⟩
  refine List.forall_mem_cons.mpr ⟨Or.inr (Or.inl rfl), List.forall_mem_append.mpr ⟨?_, hseconds⟩⟩
  exact fun c hc => Or.inl (h.minute.2 c hc)

lemma TimeText.WellFormed.isDateChar {t : TimeText} (h : t.WellFormed) :
    ∀ c ∈ t.chars, IsDateChar c := by
  intro c hc
  rcases h.mem_chars c hc with hdigit | rfl | rfl
  · exact .of_isDecimal hdigit
  · exact Or.inr (by decide)
  · exact Or.inr (by decide)

lemma isDateChar_sign {sign : Char} (h : sign = '+' ∨ sign = '-') : IsDateChar sign := by
  rcases h with rfl | rfl <;> exact Or.inr (by decide)

lemma ZoneText.WellFormed.isDateChar {zone : ZoneText} (h : zone.WellFormed) :
    ∀ c ∈ zone.chars, IsDateChar c := by
  cases zone with
  | absent => exact nofun
  | zulu => exact List.forall_mem_singleton.mpr (Or.inr (by decide))
  | hours sign hour => exact List.forall_mem_cons.mpr ⟨isDateChar_sign h.1, h.2.isDateChar⟩
  | minutes sign hour colon minute =>
    refine List.forall_mem_cons.mpr ⟨isDateChar_sign h.1, List.forall_mem_append.mpr
      ⟨h.2.1.isDateChar, List.forall_mem_append.mpr ⟨fun c hc => ?_, h.2.2.isDateChar⟩⟩⟩
    cases colon
    · cases hc
    · rw [List.mem_singleton.mp hc]
      exact Or.inr (by decide)

lemma not_isOffsetStart_of_mem {c : Char} (h : isDecimal c = true ∨ c = ':' ∨ c = '.') :
    isOffsetStart c = false := by
  rw [← Bool.not_eq_true]
  intro hstart
  unfold isOffsetStart at hstart
  rw [Bool.or_eq_true, Bool.or_eq_true, decide_eq_true_iff, decide_eq_true_iff,
    decide_eq_true_iff] at hstart
  rcases hstart with (rfl | rfl) | rfl <;> exact absurd h (by decide)

lemma TimeText.WellFormed.readClock?_chars {t : TimeText} (h : t.WellFormed) (rest : List Char) :
    ∃ complete, readClock? 3 0 true .midnight (t.chars ++ rest) t.chars.length =
      if IsDigits t.digits then some ⟨t.value, complete⟩ else none := by
  obtain ⟨hour, minute, seconds⟩ := t
  obtain ⟨⟨hhour, -⟩, ⟨hminute, -⟩, hseconds⟩ := h
  dsimp only at hhour hminute hseconds
  cases seconds with
  | absent =>
    refine ⟨peek rest == '\x00', ?_⟩
    have hlength : ((TimeText.mk hour minute .absent).chars.length : ℤ) = 5 := by
      simp [TimeText.chars, SecondsText.chars, hhour, hminute]
    have hchars : (TimeText.mk hour minute .absent).chars ++ rest =
        hour ++ ':' :: (minute ++ rest) := by simp [TimeText.chars, SecondsText.chars]
    rw [hlength, hchars, readClock?_colon hhour (by decide) (Or.inl rfl),
      readClock?_last hminute (by decide)]
    simp only [TimeText.digits, SecondsText.digits, List.append_nil, isDigits_append,
      ite_and]
    rfl
  | whole second =>
    refine ⟨peek rest == '\x00', ?_⟩
    have hlength : ((TimeText.mk hour minute (.whole second)).chars.length : ℤ) = 8 := by
      simp [TimeText.chars, SecondsText.chars, hhour, hminute, hseconds.1]
    have hchars : (TimeText.mk hour minute (.whole second)).chars ++ rest =
        hour ++ ':' :: (minute ++ ':' :: (second ++ rest)) := by
      simp [TimeText.chars, SecondsText.chars]
    rw [hlength, hchars, readClock?_colon hhour (by decide) (Or.inl rfl),
      readClock?_colon hminute (by decide) (Or.inr rfl), readClock?_last hseconds.1 (by decide)]
    simp only [TimeText.digits, SecondsText.digits, isDigits_append, ite_and]
    rfl
  | fractional second fraction =>
    refine ⟨peek ((fraction.drop 6 ++ rest).dropWhile Char.isDigit) == '\x00', ?_⟩
    have hpos := List.length_pos_iff.mpr hseconds.2.1
    have hlength : ((TimeText.mk hour minute (.fractional second fraction)).chars.length : ℤ) =
        9 + fraction.length := by
      simp [TimeText.chars, SecondsText.chars, hhour, hminute, hseconds.1.1]
      omega
    have hchars : (TimeText.mk hour minute (.fractional second fraction)).chars ++ rest =
        hour ++ ':' :: (minute ++ ':' :: (second ++ '.' :: (fraction ++ rest))) := by
      simp [TimeText.chars, SecondsText.chars]
    have hleft : ((9 + fraction.length - 3 - 3 - 3 : ℤ)).toNat = fraction.length := by omega
    rw [hlength, hchars, readClock?_colon hhour (by omega) (Or.inl rfl),
      readClock?_colon hminute (by omega) (Or.inr rfl),
      readClock?_point hseconds.1.1 (by omega), hleft, readFraction?_append]
    simp only [TimeText.digits, SecondsText.digits, isDigits_append, ite_and]
    rfl

lemma readClock?_hour {hour : List Char} (h : IsNumeral 2 hour) :
    readClock? 3 0 true .midnight hour hour.length =
      if IsDigits hour then some ⟨⟨digitsValue hour, 0, 0, 0⟩, true⟩ else none := by
  have hlast : readClock? 3 0 true .midnight (hour ++ []) hour.length =
      if IsDigits hour then some ⟨⟨digitsValue hour, 0, 0, 0⟩, true⟩ else none :=
    readClock?_last h.1 (by rw [h.1]; decide)
  rwa [List.append_nil] at hlast

lemma readClock?_hourMinute {hour minute : List Char} (hhour : IsNumeral 2 hour)
    (hminute : IsNumeral 2 minute) (colon : Bool) :
    let cs := hour ++ ((if colon then [':'] else []) ++ minute)
    readClock? 3 0 true .midnight cs cs.length =
      if IsDigits (hour ++ minute) then
        some ⟨⟨digitsValue hour, digitsValue minute, 0, 0⟩, true⟩
      else none := by
  intro cs
  simp only [isDigits_append, ite_and]
  cases colon with
  | true =>
    have hlength : (cs.length : ℤ) = 5 := by simp [cs, hhour.1, hminute.1]
    have hcs : cs = hour ++ ':' :: (minute ++ []) := by simp [cs]
    rw [hlength, hcs, readClock?_colon hhour.1 (by decide) (Or.inl rfl),
      readClock?_last hminute.1 (by decide)]
    rfl
  | false =>
    have hlength : (cs.length : ℤ) = 4 := by simp [cs, hhour.1, hminute.1]
    obtain ⟨a, b, rfl⟩ := List.length_eq_two.mp hminute.1
    have hcs : cs = hour ++ a :: [b] := by simp [cs]
    have hlast : readClock? 2 1 false ⟨digitsValue hour, 0, 0, 0⟩ ([a, b] ++ []) (4 - 2) =
        if IsDigits [a, b] then
          some ⟨⟨digitsValue hour, digitsValue [a, b], 0, 0⟩, true⟩
        else none := readClock?_last hminute.1 (by decide)
    rw [hlength, hcs, readClock?_bare hhour.1 (by decide) (hminute.2 a List.mem_cons_self)]
    split
    · exact hlast
    · rfl

/-- The clock comes before the sign of an offset, and the offset is a clock text after it. -/
lemma TimeText.WellFormed.isoTime?_chars {t : TimeText} (h : t.WellFormed) {sign : Char}
    (hsign : sign = '+' ∨ sign = '-') {rest ds : List Char} {time : TimeOfDay}
    (hrest : readClock? 3 0 true .midnight rest rest.length =
      if IsDigits ds then some ⟨time, true⟩ else none) :
    isoTime? (t.chars ++ sign :: rest) =
      if IsDigits (t.digits ++ ds) then
        (offsetOf? (sign == '-') time).map fun o => (t.value, some o)
      else none := by
  obtain ⟨complete, hclock⟩ := h.readClock?_chars (sign :: rest)
  rw [isoTime?_signed (fun c hc => not_isOffsetStart_of_mem (h.mem_chars c hc)) hsign, hclock,
    hrest]
  simp only [isDigits_append, ite_and]
  split
  · split
    · rfl
    · rfl
  · rfl

/-- The zones that are read, with the digits that are read of them. -/
def ZoneText.Readable (zone : ZoneText) : Prop :=
  (∀ c ∈ zone.digits, c.isDigit = true) ∧ zone.time.hour < 24

/-- What is read of a time and a zone is the time, written with digits of the basic Latin block as
far as it is read. -/
lemma isoTime?_text {t : TimeText} {zone : ZoneText} (ht : t.WellFormed) (hzone : zone.WellFormed)
    {time : TimeOfDay} {offset : Option ℤ}
    (h : isoTime? (t.chars ++ zone.spelled.chars) = some (time, offset)) :
    (∀ c ∈ t.digits, c.isDigit = true) ∧ time = t.value ∧ zone.Readable := by
  have hsigned : ∀ {sign : Char} {rest ds : List Char} {clock : TimeOfDay},
      (sign = '+' ∨ sign = '-') →
      readClock? 3 0 true .midnight rest rest.length =
        (if IsDigits ds then some ⟨clock, true⟩ else none) →
      isoTime? (t.chars ++ sign :: rest) = some (time, offset) →
      (∀ c ∈ t.digits ++ ds, c.isDigit = true) ∧ time = t.value ∧
        ∃ o, offsetOf? (sign == '-') clock = some o := by
    intro sign rest ds clock hsign hrest hread
    rw [ht.isoTime?_chars hsign hrest, Option.ite_none_right_eq_some] at hread
    obtain ⟨hdigits, hread⟩ := hread
    obtain ⟨o, ho, heq⟩ := Option.map_eq_some_iff.mp hread
    exact ⟨hdigits, (Prod.mk.inj heq).1.symm, o, ho⟩
  cases zone with
  | absent =>
    obtain ⟨complete, hclock⟩ := ht.readClock?_chars []
    rw [List.append_nil] at hclock
    have hspelled : ZoneText.absent.spelled.chars = [] := rfl
    rw [hspelled, List.append_nil,
      isoTime?_naive fun c hc => not_isOffsetStart_of_mem (ht.mem_chars c hc), hclock] at h
    obtain ⟨text, htext, h⟩ := Option.bind_eq_some_iff.mp h
    obtain ⟨hdigits, htext⟩ := Option.ite_none_right_eq_some.mp htext
    obtain rfl := Option.some.inj htext
    obtain ⟨-, h⟩ := Option.ite_none_right_eq_some.mp h
    exact ⟨hdigits, (Prod.mk.inj (Option.some.inj h)).1.symm, nofun, by decide⟩
  | zulu =>
    have hzulu := readClock?_hourMinute isNumeral_zeros isNumeral_zeros true
    obtain ⟨hdigits, htime, -⟩ := hsigned (Or.inl rfl) hzulu h
    exact ⟨(isDigits_append.mp hdigits).1, htime, nofun, by decide⟩
  | hours sign hour =>
    obtain ⟨hsign, hhour⟩ := hzone
    obtain ⟨hdigits, htime, o, ho⟩ := hsigned hsign (readClock?_hour hhour) h
    obtain ⟨hclock, hoffset⟩ := isDigits_append.mp hdigits
    exact ⟨hclock, htime, hoffset, hour_lt_of_offsetOf? ho⟩
  | minutes sign hour colon minute =>
    obtain ⟨hsign, hhour, hminute⟩ := hzone
    obtain ⟨hdigits, htime, o, ho⟩ := hsigned hsign (readClock?_hourMinute hhour hminute colon) h
    obtain ⟨hclock, hoffset⟩ := isDigits_append.mp hdigits
    exact ⟨hclock, htime, hoffset, hour_lt_of_offsetOf? ho⟩

lemma spellZulu_of_isDecimal {cs : List Char} (h : ∀ c ∈ cs, isDecimal c = true) :
    spellZulu cs = cs :=
  spellZulu_of_notMem fun hmem => absurd (h 'Z' hmem) (by decide)

lemma TimeText.WellFormed.spellZulu_chars {t : TimeText} (h : t.WellFormed) :
    spellZulu t.chars = t.chars :=
  spellZulu_of_notMem fun hmem => absurd (h.mem_chars 'Z' hmem) (by decide)

lemma ZoneText.WellFormed.spelled {zone : ZoneText} (h : zone.WellFormed) :
    zone.spelled.WellFormed := by
  cases zone with
  | zulu => exact ⟨Or.inl rfl, isNumeral_zeros, isNumeral_zeros⟩
  | absent | hours _ _ | minutes _ _ _ _ => exact h

lemma ZoneText.WellFormed.spellZulu_chars {zone : ZoneText} (h : zone.WellFormed) :
    spellZulu zone.chars = zone.spelled.chars := by
  have hsign : ∀ {sign : Char}, sign = '+' ∨ sign = '-' → 'Z' ≠ sign := by
    rintro sign (rfl | rfl) <;> decide
  cases zone with
  | absent => rfl
  | zulu => rfl
  | hours sign hour =>
    refine spellZulu_of_notMem (List.not_mem_cons_of_ne_of_not_mem (hsign h.1) fun hmem => ?_)
    exact absurd (h.2.2 'Z' hmem) (by decide)
  | minutes sign hour colon minute =>
    refine spellZulu_of_notMem (List.not_mem_cons_of_ne_of_not_mem (hsign h.1) fun hmem => ?_)
    rcases List.mem_append.mp hmem with hmem | hmem
    · exact absurd (h.2.1.2 'Z' hmem) (by decide)
    · rcases List.mem_append.mp hmem with hmem | hmem
      · cases colon <;> exact absurd hmem (by decide)
      · exact absurd (h.2.2.2 'Z' hmem) (by decide)

/-- A zone that is spelled out is nothing, or a sign and what follows it. -/
lemma ZoneText.WellFormed.spelled_chars {zone : ZoneText} (h : zone.WellFormed) :
    zone.spelled.chars = [] ∨
      ∃ sign rest, zone.spelled.chars = sign :: rest ∧ (sign = '+' ∨ sign = '-') := by
  cases zone with
  | absent => exact Or.inl rfl
  | zulu => exact Or.inr ⟨'+', _, rfl, Or.inl rfl⟩
  | hours sign hour => exact Or.inr ⟨sign, _, rfl, h.1⟩
  | minutes sign hour colon minute => exact Or.inr ⟨sign, _, rfl, h.1⟩

/-- A line feed after a time and a zone is not read over. -/
lemma isoTime?_lineFeed {t : TimeText} {zone : ZoneText} (ht : t.WellFormed)
    (hzone : zone.WellFormed) : isoTime? (t.chars ++ (zone.spelled.chars ++ ['\n'])) = none := by
  have hincomplete : ∀ {s : List Char} {text : ClockText}, (∀ c ∈ s, IsDateChar c) →
      readClock? 3 0 true .midnight (s ++ ['\n']) (s ++ ['\n']).length = some text →
      text.complete = false := by
    intro s text hs htext
    rw [← Bool.not_eq_true]
    intro hcomplete
    obtain ⟨time, complete⟩ := text
    obtain rfl : complete = true := hcomplete
    have hnul : '\x00' ∉ s ++ ['\n'] := by
      rintro hmem
      rcases List.mem_append.mp hmem with hmem | hmem
      · exact (hs _ hmem).ne_nul rfl
      · exact absurd hmem (by decide)
    have hfeed := readClock?_complete hnul htext '\n' (List.mem_append_right _ List.mem_cons_self)
    rcases hfeed with h | h | h | h <;> cases h
  rw [Option.eq_none_iff_forall_ne_some]
  intro result hread
  rcases hzone.spelled_chars with hnone | ⟨sign, rest, hsigned, hsign⟩
  · rw [hnone, List.nil_append, isoTime?_naive] at hread
    · obtain ⟨text, htext, hread⟩ := Option.bind_eq_some_iff.mp hread
      rw [hincomplete ht.isDateChar htext] at hread
      cases hread
    · refine List.forall_mem_append.mpr ⟨fun c hc => ?_, List.forall_mem_singleton.mpr rfl⟩
      exact not_isOffsetStart_of_mem (ht.mem_chars c hc)
  · have hrest : ∀ c ∈ rest, IsDateChar c := fun c hc =>
      hzone.spelled.isDateChar c (hsigned ▸ List.mem_cons_of_mem sign hc)
    rw [hsigned, List.cons_append, isoTime?_signed
      (fun c hc => not_isOffsetStart_of_mem (ht.mem_chars c hc)) hsign] at hread
    obtain ⟨text, -, hread⟩ := Option.bind_eq_some_iff.mp hread
    obtain ⟨offset, hoffset, hread⟩ := Option.bind_eq_some_iff.mp hread
    rw [hincomplete hrest hoffset] at hread
    cases hread

namespace DateText

variable {t : DateText} {m : Moment}

/-- The time with a zero offset in the place of universal time. -/
def spelledTime (t : DateText) : Option (TimeText × ZoneText) :=
  t.time.map fun part => (part.1, part.2.spelled)

lemma WellFormed.spellZulu_chars (h : t.WellFormed) (rest : List Char) :
    spellZulu (t.chars ++ rest) =
      t.year ++ '-' :: (t.month ++ '-' ::
        (t.date ++ (timeChars t.spelledTime ++ spellZulu rest))) := by
  have hdash : ∀ s, spellZulu ('-' :: s) = '-' :: spellZulu s := fun s => rfl
  have htime : spellZulu (timeChars t.time) = timeChars t.spelledTime := by
    unfold spelledTime
    cases htime : t.time with
    | none => rfl
    | some part =>
      obtain ⟨hclock, hzone⟩ := h.time part.1 part.2 htime
      change 'T' :: spellZulu (part.1.chars ++ part.2.chars) = _
      rw [spellZulu_append, hclock.spellZulu_chars, hzone.spellZulu_chars]
      rfl
  unfold chars
  rw [spellZulu_append, spellZulu_append, hdash, spellZulu_append, hdash, spellZulu_append, htime,
    spellZulu_of_isDecimal h.year.2, spellZulu_of_isDecimal h.month.2,
    spellZulu_of_isDecimal h.date.2]
  simp only [List.append_assoc, List.cons_append]

/-- The parts of a text in which a moment is read. -/
structure Readable (t : DateText) : Prop where
  digits : ∀ c ∈ t.year ++ (t.month ++ t.date), c.isDigit = true
  civil : t.civil.IsValid
  time : ∀ clock zone, t.time = some (clock, zone) →
    (∀ c ∈ clock.digits, c.isDigit = true) ∧ clock.value.isValid = true ∧ zone.Readable

lemma WellFormed.readIso? (h : t.WellFormed) (rest : List Char) :
    Moment.readIso? (spellZulu (t.chars ++ rest)) =
      if IsDigits (t.year ++ (t.month ++ t.date)) then
        (Day.ofDate? t.civil).bind fun day =>
          (match timeChars t.spelledTime ++ spellZulu rest with
            | [] => some (TimeOfDay.midnight, none)
            | _ :: time => isoTime? time).bind fun time => Moment.ofDay? day time.1 time.2
      else none := by
  have hweek : t.month.head? ≠ some 'W' := fun hweek =>
    absurd (h.month.2 'W' (List.mem_of_mem_head? hweek)) (by decide)
  rw [h.spellZulu_chars, readIso?_dashed h.year.1 h.month.1 h.date.1 hweek]
  rfl

lemma WellFormed.readable (h : t.WellFormed)
    (hread : Moment.readIso? (spellZulu t.chars) = some m) : t.Readable := by
  rw [← t.chars.append_nil, h.readIso?, Option.ite_none_right_eq_some] at hread
  obtain ⟨hdigits, hread⟩ := hread
  obtain ⟨day, hday, hread⟩ := Option.bind_eq_some_iff.mp hread
  refine ⟨hdigits, (Day.ofDate?_eq_some_iff.mp hday).1, ?_⟩
  intro clock zone htime
  obtain ⟨hclock, hzone⟩ := h.time clock zone htime
  have hspelled : timeChars t.spelledTime ++ spellZulu [] =
      'T' :: (clock.chars ++ zone.spelled.chars) := by
    rw [spelledTime, htime]
    exact List.append_nil _
  rw [hspelled] at hread
  obtain ⟨⟨time, offset⟩, htext, hmoment⟩ := Option.bind_eq_some_iff.mp hread
  obtain ⟨hclockDigits, rfl, hreadable⟩ := isoTime?_text hclock hzone htext
  exact ⟨hclockDigits, (Moment.ofDay?_eq_some_iff.mp hmoment).1, hreadable⟩

/-- A final line feed is not read over. -/
lemma WellFormed.readIso?_lineFeed (h : t.WellFormed) :
    Moment.readIso? (spellZulu (t.chars ++ ['\n'])) = none := by
  rw [h.readIso?, Option.eq_none_iff_forall_ne_some]
  intro m hread
  obtain ⟨-, hread⟩ := Option.ite_none_right_eq_some.mp hread
  obtain ⟨day, -, hread⟩ := Option.bind_eq_some_iff.mp hread
  obtain ⟨time, htext, -⟩ := Option.bind_eq_some_iff.mp hread
  cases htime : t.time with
  | none =>
    rw [spelledTime, htime] at htext
    cases htext
  | some part =>
    obtain ⟨hclock, hzone⟩ := h.time part.1 part.2 htime
    have hspelled : timeChars t.spelledTime ++ spellZulu ['\n'] =
        'T' :: (part.1.chars ++ (part.2.spelled.chars ++ ['\n'])) := by
      rw [spelledTime, htime]
      exact List.append_assoc ('T' :: part.1.chars) _ _
    rw [hspelled] at htext
    cases (isoTime?_lineFeed hclock hzone).symm.trans htext

lemma WellFormed.isDateChar (h : t.WellFormed) : ∀ c ∈ t.chars, IsDateChar c := by
  have hdash : IsDateChar '-' := Or.inr (by decide)
  have htime : ∀ c ∈ timeChars t.time, IsDateChar c := by
    cases htime : t.time with
    | none => exact nofun
    | some part =>
      obtain ⟨hclock, hzone⟩ := h.time part.1 part.2 htime
      exact List.forall_mem_cons.mpr ⟨Or.inr (by decide),
        List.forall_mem_append.mpr ⟨hclock.isDateChar, hzone.isDateChar⟩⟩
  refine List.forall_mem_append.mpr ⟨h.year.isDateChar, List.forall_mem_cons.mpr ⟨hdash, ?_⟩⟩
  refine List.forall_mem_append.mpr ⟨h.month.isDateChar, List.forall_mem_cons.mpr ⟨hdash, ?_⟩⟩
  exact List.forall_mem_append.mpr ⟨h.date.isDateChar, htime⟩

end DateText

end InputGuard

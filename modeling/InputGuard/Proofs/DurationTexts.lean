import InputGuard.Proofs.CharacterClasses
import Mathlib.Data.List.TakeWhile

/-!
# Durations

A duration is a `P`, amounts of years, months, weeks and days and then perhaps a `T` and amounts of
hours, minutes and seconds, each unit at most once and in this order. The reader drops the amounts
it finds unit by unit; the pattern asks for each amount optionally and has two look-aheads, one for
something after the `P` and one for a digit after the `T`. Both accept the same texts.
-/

namespace InputGuard

namespace Format

open Unicode

/-- Decimal digits and the unit of what they count. -/
structure Amount where
  digits : List Char
  unit : Char
  decimal : ConsistsOf isDecimal digits

def Amount.text (a : Amount) : List Char := a.digits ++ [a.unit]

/-- Amounts of some of the units, each at most once and in their order. -/
def OfUnits (units : List Char) (amounts : List Amount) : Prop :=
  (amounts.map (·.unit)).Sublist units

/-- Amounts one after another. -/
def amountsText (amounts : List Amount) : List Char := amounts.flatMap (·.text)

/-- Amounts of a time of day after a `T`, if there are any. -/
def clockText : List Amount → List Char
  | [] => []
  | clock => 'T' :: amountsText clock

def dateUnits : List Char := ['Y', 'M', 'W', 'D']

def clockUnits : List Char := ['H', 'M', 'S']

/-- A `P` and amounts of a date and a time of day, at least one of them. -/
def DurationForm (t : List Char) : Prop :=
  ∃ date clock, OfUnits dateUnits date ∧ OfUnits clockUnits clock ∧ date ++ clock ≠ [] ∧
    t = 'P' :: (amountsText date ++ clockText clock)

/-- Whether a text starts with a decimal digit. -/
def startsDecimal (s : List Char) : Bool := (s.head?.map isDecimal).getD false

variable {s t rest : List Char} {unit c : Char} {units units' : List Char} {a : Amount}
  {amounts : List Amount}

lemma isDecimal_dateUnits : ∀ u ∈ dateUnits, isDecimal u = false := by
  simp only [dateUnits, List.forall_mem_cons]
  exact ⟨by decide, by decide, by decide, by decide, List.forall_mem_nil _⟩

lemma isDecimal_clockUnits : ∀ u ∈ clockUnits, isDecimal u = false := by
  simp only [clockUnits, List.forall_mem_cons]
  exact ⟨by decide, by decide, by decide, List.forall_mem_nil _⟩

lemma ofUnits_nil (units : List Char) : OfUnits units [] := List.nil_sublist _

lemma ofUnits_nil_iff : OfUnits [] amounts ↔ amounts = [] := by
  unfold OfUnits
  rw [List.sublist_nil, List.map_eq_nil_iff]

lemma ofUnits_singleton_iff :
    OfUnits [unit] amounts ↔ amounts = [] ∨ ∃ a : Amount, amounts = [a] ∧ a.unit = unit := by
  unfold OfUnits
  rw [List.sublist_singleton, List.map_eq_nil_iff, List.map_eq_singleton_iff]

lemma ofUnits_append_iff : OfUnits (units ++ units') amounts ↔
    ∃ front back, amounts = front ++ back ∧ OfUnits units front ∧ OfUnits units' back := by
  unfold OfUnits
  rw [List.sublist_append_iff]
  constructor
  · rintro ⟨front, back, heq, hfront, hback⟩
    obtain ⟨front, back, rfl, rfl, rfl⟩ := List.map_eq_append_iff.mp heq
    exact ⟨front, back, rfl, hfront, hback⟩
  · rintro ⟨front, back, rfl, hfront, hback⟩
    exact ⟨_, _, List.map_append, hfront, hback⟩

lemma ofUnits_append {amounts' : List Amount} (h : OfUnits units amounts)
    (h' : OfUnits units' amounts') : OfUnits (units ++ units') (amounts ++ amounts') :=
  ofUnits_append_iff.mpr ⟨_, _, rfl, h, h'⟩

lemma amountsText_nil_append (rest : List Char) : amountsText [] ++ rest = rest := rfl

lemma amountsText_cons_append (a : Amount) (amounts : List Amount) (rest : List Char) :
    amountsText (a :: amounts) ++ rest = a.text ++ (amountsText amounts ++ rest) := by
  unfold amountsText
  rw [List.flatMap_cons, List.append_assoc]

lemma amountsText_append (amounts amounts' : List Amount) :
    amountsText (amounts ++ amounts') = amountsText amounts ++ amountsText amounts' :=
  List.flatMap_append

lemma clockText_of_ne {clock : List Amount} (h : clock ≠ []) :
    clockText clock = 'T' :: amountsText clock := by
  cases clock with
  | nil => exact absurd rfl h
  | cons a clock => rfl

lemma clockText_cons (a : Amount) (clock : List Amount) :
    clockText (a :: clock) = 'T' :: amountsText (a :: clock) := rfl

lemma startsDecimal_text (a : Amount) (rest : List Char) :
    startsDecimal (a.text ++ rest) = true := by
  obtain ⟨digits, unit, hne, hdigits⟩ := a
  obtain ⟨d, digits, rfl⟩ := List.exists_cons_of_ne_nil hne
  exact hdigits d (List.mem_cons_self ..)

/-- Amounts start with a digit if there are any. -/
lemma startsDecimal_amountsText (hrest : startsDecimal rest = false) :
    startsDecimal (amountsText amounts ++ rest) = true ↔ amounts ≠ [] := by
  cases amounts with
  | nil =>
    rw [amountsText_nil_append, hrest]
    exact iff_of_false Bool.false_ne_true fun hne => hne rfl
  | cons a amounts =>
    rw [amountsText_cons_append]
    exact iff_of_true (startsDecimal_text _ _) (List.cons_ne_nil _ _)

lemma startsDecimal_clockText (clock : List Amount) (hrest : startsDecimal rest = false) :
    startsDecimal (clockText clock ++ rest) = false := by
  cases clock with
  | nil => exact hrest
  | cons a clock => exact (by decide : isDecimal 'T' = false)

lemma amountsText_eq_nil_iff : amountsText amounts = [] ↔ amounts = [] := by
  have hstart : startsDecimal (amountsText amounts ++ []) = true ↔ amounts ≠ [] :=
    startsDecimal_amountsText rfl
  rw [List.append_nil] at hstart
  constructor
  · intro hnil
    rw [hnil] at hstart
    by_contra hne
    cases hstart.mpr hne
  · rintro rfl
    rfl

/-- A text starts with no digit, or is nothing but digits, or digits are followed by something. -/
lemma amount_cases (s : List Char) : startsDecimal s = false ∨ ConsistsOf isDecimal s ∨
    ∃ (a : Amount) (rest : List Char), isDecimal a.unit = false ∧ s = a.text ++ rest := by
  cases s with
  | nil => exact Or.inl rfl
  | cons d s =>
    by_cases hd : isDecimal d = true
    · have hsplit := List.takeWhile_append_dropWhile (p := isDecimal) (l := d :: s)
      have hdigits : ConsistsOf isDecimal ((d :: s).takeWhile isDecimal) := by
        refine ⟨?_, List.all_eq_true.mp List.all_takeWhile⟩
        rw [List.takeWhile_cons_of_pos hd]
        exact List.cons_ne_nil _ _
      cases hrest : (d :: s).dropWhile isDecimal with
      | nil =>
        rw [hrest, List.append_nil] at hsplit
        rw [hsplit] at hdigits
        exact Or.inr (Or.inl hdigits)
      | cons c rest =>
        have hc : isDecimal c = false := by
          have hhead := List.head?_dropWhile_not isDecimal (d :: s)
          rw [hrest] at hhead
          exact hhead
        refine Or.inr (Or.inr ⟨⟨_, c, hdigits⟩, rest, hc, ?_⟩)
        rw [Amount.text, List.append_assoc, List.singleton_append, ← hrest, hsplit]
    · exact Or.inl (Bool.not_eq_true _ ▸ hd)

lemma dropAmount_of_startsDecimal (h : startsDecimal s = false) : dropAmount unit s = s := by
  unfold startsDecimal at h
  unfold dropAmount
  simp only [h, Bool.and_false, Bool.false_eq_true, if_false]
  split <;> rfl

lemma dropAmount_of_consistsOf (h : ConsistsOf isDecimal s) : dropAmount unit s = s := by
  unfold dropAmount
  rw [List.dropWhile_eq_nil_iff.mpr h.2]

lemma dropAmount_text (ha : isDecimal a.unit = false) (rest : List Char) :
    dropAmount unit (a.text ++ rest) = if a.unit = unit then rest else a.text ++ rest := by
  have hstart := startsDecimal_text a rest
  have hdrop : (a.text ++ rest).dropWhile isDecimal = a.unit :: rest := by
    rw [Amount.text, List.append_assoc, List.dropWhile_append_of_pos a.decimal.2]
    exact List.dropWhile_cons_of_neg (by rw [ha]; decide)
  unfold startsDecimal at hstart
  unfold dropAmount
  simp only [hdrop, hstart, Bool.and_true, decide_eq_true_eq]

/-- Nothing is dropped, or an amount of the unit. -/
lemma dropAmount_eq_or (unit : Char) (s : List Char) : dropAmount unit s = s ∨
    ∃ a : Amount, a.unit = unit ∧ s = a.text ++ dropAmount unit s := by
  rcases amount_cases s with h | h | ⟨a, rest, ha, rfl⟩
  · exact Or.inl (dropAmount_of_startsDecimal h)
  · exact Or.inl (dropAmount_of_consistsOf h)
  · rw [dropAmount_text ha]
    by_cases hunit : a.unit = unit
    · rw [if_pos hunit]
      exact Or.inr ⟨a, hunit, rfl⟩
    · rw [if_neg hunit]
      exact Or.inl rfl

lemma dropAmounts_cons (unit : Char) (units s : List Char) :
    dropAmounts (unit :: units) s = dropAmounts units (dropAmount unit s) := rfl

/-- What is dropped unit by unit are amounts in the order of the units. -/
lemma exists_amounts (units s : List Char) :
    ∃ amounts, OfUnits units amounts ∧ s = amountsText amounts ++ dropAmounts units s := by
  induction units generalizing s with
  | nil => exact ⟨[], ofUnits_nil _, rfl⟩
  | cons unit units ih =>
    obtain ⟨amounts, horder, hrest⟩ := ih (dropAmount unit s)
    rw [dropAmounts_cons]
    rcases dropAmount_eq_or unit s with hsame | ⟨a, ha, hs⟩
    · exact ⟨amounts, List.Sublist.cons unit horder, hsame.symm.trans hrest⟩
    · subst ha
      refine ⟨a :: amounts, List.Sublist.cons_cons a.unit horder, ?_⟩
      rw [amountsText_cons_append, ← hrest]
      exact hs

/-- All amounts in the order of the units are dropped. -/
lemma dropAmounts_amountsText (hunits : ∀ u ∈ units, isDecimal u = false)
    (horder : OfUnits units amounts) (hrest : startsDecimal rest = false) :
    dropAmounts units (amountsText amounts ++ rest) = rest := by
  induction units generalizing amounts with
  | nil =>
    rw [ofUnits_nil_iff.mp horder]
    rfl
  | cons unit units ih =>
    obtain ⟨-, htail⟩ := List.forall_mem_cons.mp hunits
    rw [dropAmounts_cons]
    cases amounts with
    | nil =>
      rw [amountsText_nil_append, dropAmount_of_startsDecimal hrest]
      exact ih htail (ofUnits_nil _)
    | cons a amounts =>
      have ha : isDecimal a.unit = false := hunits _ (horder.subset (List.mem_cons_self ..))
      rw [amountsText_cons_append, dropAmount_text ha, ← amountsText_cons_append]
      by_cases hunit : a.unit = unit
      · rw [if_pos hunit]
        subst hunit
        exact ih htail (List.cons_sublist_cons.mp horder)
      · rw [if_neg hunit]
        exact ih htail ((List.sublist_cons_iff.mp horder).resolve_right
          fun ⟨_, heq, _⟩ => hunit (List.cons.inj heq).1)

/-- What follows the date is nothing, or a `T` and a time of day. -/
lemma clock_iff (s : List Char) : (match s with
    | [] => true
    | 'T' :: time => startsDecimal time && (dropAmounts clockUnits time).isEmpty
    | _ => false) = true ↔ ∃ clock, OfUnits clockUnits clock ∧ s = clockText clock := by
  constructor
  · intro h
    split at h
    · exact ⟨[], ofUnits_nil _, rfl⟩
    · rename_i time
      obtain ⟨hstart, hnil⟩ := Bool.and_eq_true_iff.mp h
      obtain ⟨clock, hclock, htime⟩ := exists_amounts clockUnits time
      rw [List.isEmpty_iff.mp hnil, List.append_nil] at htime
      refine ⟨clock, hclock, ?_⟩
      cases clock with
      | nil =>
        subst htime
        cases hstart
      | cons a clock => rw [htime, clockText_cons]
    · cases h
  · rintro ⟨clock, hclock, rfl⟩
    cases clock with
    | nil => rfl
    | cons a clock =>
      have hnone : startsDecimal [] = false := rfl
      have hdropped := dropAmounts_amountsText isDecimal_clockUnits hclock hnone
      have hstart := (startsDecimal_amountsText hnone).mpr (List.cons_ne_nil a clock)
      rw [List.append_nil] at hdropped hstart
      simp only [clockText_cons, hdropped, hstart, List.isEmpty_nil, Bool.and_self]

lemma date_iff (s : List Char) : (∃ clock, OfUnits clockUnits clock ∧
    dropAmounts dateUnits s = clockText clock) ↔ ∃ date clock, OfUnits dateUnits date ∧
      OfUnits clockUnits clock ∧ s = amountsText date ++ clockText clock := by
  constructor
  · rintro ⟨clock, hclock, hrest⟩
    obtain ⟨date, hdate, heq⟩ := exists_amounts dateUnits s
    rw [hrest] at heq
    exact ⟨date, clock, hdate, hclock, heq⟩
  · rintro ⟨date, clock, hdate, hclock, rfl⟩
    have hrest : startsDecimal (clockText clock ++ []) = false := startsDecimal_clockText clock rfl
    rw [List.append_nil] at hrest
    exact ⟨clock, hclock, dropAmounts_amountsText isDecimal_dateUnits hdate hrest⟩

lemma durationText_eq_nil_iff {date clock : List Amount} :
    amountsText date ++ clockText clock = [] ↔ date ++ clock = [] := by
  rw [List.append_eq_nil_iff, List.append_eq_nil_iff, amountsText_eq_nil_iff]
  cases clock with
  | nil => exact and_congr_right fun _ => iff_of_true rfl rfl
  | cons a clock => exact and_congr_right fun _ => iff_of_false nofun nofun

lemma isDuration_iff : isDuration s = true ↔ DurationForm (dropFinalLineFeed s) := by
  unfold isDuration DurationForm
  generalize dropFinalLineFeed s = t
  split
  · rename_i body
    rw [Bool.and_eq_true, Bool.not_eq_true', List.isEmpty_eq_false_iff]
    refine (and_congr_right fun _ => (clock_iff _).trans (date_iff body)).trans ?_
    constructor
    · rintro ⟨hne, date, clock, hdate, hclock, rfl⟩
      exact ⟨date, clock, hdate, hclock, mt durationText_eq_nil_iff.mpr hne, rfl⟩
    · rintro ⟨date, clock, hdate, hclock, hne, heq⟩
      obtain rfl := (List.cons.inj heq).2
      exact ⟨mt durationText_eq_nil_iff.mp hne, date, clock, hdate, hclock, rfl⟩
  · rename_i hstart
    refine iff_of_false Bool.false_ne_true ?_
    rintro ⟨date, clock, -, -, -, rfl⟩
    exact hstart _ rfl

open Pattern

/-- A decimal digit, in a pattern. -/
def decimalSingle : Node := .single plainly (.set false [.cls false .digit])

/-- An amount of a unit, or nothing. -/
def amountNode (index : ℕ) (unit : Char) : Node :=
  .repeated .greedy 0 (some 1)
    (.group index (.sequence (.repeated .greedy 1 none decimalSingle) (charSingle unit)))

/-- Amounts of units in their order, before another node. -/
def amountNodes : ℕ → List Char → Node → Node
  | _, [], last => last
  | index, unit :: units, last =>
    .sequence (amountNode index unit) (amountNodes (index + 1) units last)

/-- A `T` before a digit and amounts of a time of day, or nothing. -/
def clockNode : Node :=
  .repeated .greedy 0 (some 1) (.group 5 (.sequence (charSingle 'T')
    (.sequence (.ahead false decimalSingle) (amountNodes 6 ['H', 'M'] (amountNode 8 'S')))))

/-- A `P` before something else, and amounts of a date and a time of day. -/
def durationNode : Node :=
  .sequence (charSingle 'P') (.sequence (.ahead true (.anchor .finalEnd))
    (amountNodes 1 dateUnits (.sequence clockNode (.anchor .finalEnd))))

def durationPattern : Pattern :=
  ⟨"^P(?!$)(\\d+Y)?(\\d+M)?(\\d+W)?(\\d+D)?(T(?=\\d)(\\d+H)?(\\d+M)?(\\d+S)?)?$", .none,
    .sequence (.anchor .textStart) durationNode⟩

lemma read_durationPattern :
    Pattern.read durationPattern.source .none = .ok durationPattern := by
  decide +kernel

lemma decimal_holds (c : Char) :
    [SetItem.cls false .digit].any (·.plainHolds false c) = isDecimal c := by
  simp only [List.any_cons, List.any_nil, Bool.or_false, SetItem.plainHolds, Bool.bne_false]
  rfl

lemma spells_decimal : Spells decimalSingle fun w => ∃ c, w = [c] ∧ isDecimal c = true :=
  (Spells.single _ _).congr fun w => by simp only [plainly, holds_set, decimal_holds]

/-- Digits and a unit, or nothing. -/
lemma spells_amount (index : ℕ) (unit : Char) : Spells (amountNode index unit) fun w =>
    ∃ amounts, OfUnits [unit] amounts ∧ w = amountsText amounts := by
  have hbody := (spells_run decimal_holds).sequence (spells_char unit)
  refine (Spells.optional .greedy (hbody.group index)).congr fun w => ?_
  constructor
  · rintro (rfl | ⟨digits, _, rfl, hdigits, rfl⟩)
    · exact ⟨[], ofUnits_nil _, rfl⟩
    · exact ⟨[⟨digits, unit, hdigits⟩], List.Sublist.refl _, (List.append_nil _).symm⟩
  · rintro ⟨amounts, horder, rfl⟩
    rcases ofUnits_singleton_iff.mp horder with rfl | ⟨a, rfl, rfl⟩
    · exact Or.inl rfl
    · exact Or.inr ⟨a.digits, [a.unit], List.append_nil _, a.decimal, rfl⟩

/-- Amounts before something else. -/
lemma spells_amounts {last : Node} {L : List Char → List Char → Prop} (h : SpellsBefore last L)
    (index : ℕ) (units : List Char) : SpellsBefore (amountNodes index units last) fun w rest =>
      ∃ amounts v, OfUnits units amounts ∧ w = amountsText amounts ++ v ∧ L v rest := by
  induction units generalizing index with
  | nil =>
    refine h.congr fun w rest => ⟨fun hL => ⟨[], w, ofUnits_nil _, rfl, hL⟩, ?_⟩
    rintro ⟨amounts, v, horder, rfl, hL⟩
    rw [ofUnits_nil_iff.mp horder]
    exact hL
  | cons unit units ih =>
    refine ((SpellsBefore.of_spells (spells_amount index unit)).sequence (ih (index + 1))).congr
      fun w rest => ?_
    constructor
    · rintro ⟨_, _, rfl, ⟨front, hfront, rfl⟩, back, v, hback, rfl, hL⟩
      exact ⟨front ++ back, v, ofUnits_append hfront hback,
        by rw [amountsText_append, List.append_assoc], hL⟩
    · rintro ⟨amounts, v, horder, rfl, hL⟩
      rw [← List.singleton_append, ofUnits_append_iff] at horder
      obtain ⟨front, back, rfl, hfront, hback⟩ := horder
      exact ⟨_, _, by rw [amountsText_append, List.append_assoc], ⟨front, hfront, rfl⟩, back, v,
        hback, rfl, hL⟩

/-- The end of the text, perhaps after a line feed, is before a digit nowhere. -/
lemma startsDecimal_of_before (h : Anchor.finalEnd.Before rest) : startsDecimal rest = false := by
  rcases h with rfl | rfl
  · rfl
  · exact (by decide : isDecimal '\n' = false)

lemma spells_ahead_decimal : SpellsBefore (.ahead false decimalSingle) fun w rest =>
    w = [] ∧ startsDecimal rest = true := by
  refine ((SpellsBefore.of_spells spells_decimal).ahead false).congr fun w rest => ?_
  simp only [iff_true]
  refine and_congr_right fun _ => ?_
  cases rest with
  | nil => exact iff_of_false (by rintro ⟨_, _, heq, c, rfl, -⟩; cases heq) Bool.false_ne_true
  | cons d rest =>
    constructor
    · rintro ⟨_, _, heq, c, rfl, hc⟩
      obtain rfl := (List.cons.inj heq).1
      exact hc
    · intro hd
      exact ⟨[d], rest, rfl, d, rfl, hd⟩

lemma spells_ahead_end : SpellsBefore (.ahead true (.anchor .finalEnd)) fun w rest =>
    w = [] ∧ ¬Anchor.finalEnd.Before rest := by
  refine ((SpellsBefore.anchor .finalEnd).ahead true).congr fun w rest => ?_
  simp only [Bool.true_eq_false, iff_false]
  refine and_congr_right fun _ => not_congr ?_
  constructor
  · rintro ⟨_, v, rfl, rfl, h⟩
    exact h
  · intro h
    exact ⟨[], rest, rfl, rfl, h⟩

lemma spells_clockAmounts : SpellsBefore (amountNodes 6 ['H', 'M'] (amountNode 8 'S'))
    fun w _ => ∃ clock, OfUnits clockUnits clock ∧ w = amountsText clock := by
  refine (spells_amounts (SpellsBefore.of_spells (spells_amount 8 'S')) 6 _).congr fun w rest => ?_
  constructor
  · rintro ⟨front, _, hfront, rfl, back, hback, rfl⟩
    exact ⟨front ++ back, ofUnits_append hfront hback, (amountsText_append _ _).symm⟩
  · rintro ⟨clock, hclock, rfl⟩
    rw [show clockUnits = ['H', 'M'] ++ ['S'] from rfl, ofUnits_append_iff] at hclock
    obtain ⟨front, back, rfl, hfront, hback⟩ := hclock
    exact ⟨front, _, hfront, amountsText_append _ _, back, hback, rfl⟩

/-- At the end of the text, a digit follows the `T` only if there are amounts. -/
lemma spells_clock : SpellsBefore (.sequence clockNode (.anchor .finalEnd)) fun w rest =>
    Anchor.finalEnd.Before rest ∧ ∃ clock, OfUnits clockUnits clock ∧ w = clockText clock := by
  have hbody := (SpellsBefore.of_spells (spells_char 'T')).sequence
    (spells_ahead_decimal.sequence spells_clockAmounts)
  refine (((hbody.group 5).optional .greedy).sequence (.anchor .finalEnd)).congr fun w rest => ?_
  constructor
  · rintro ⟨w, _, rfl, hw, rfl, hend⟩
    refine ⟨hend, ?_⟩
    rw [List.append_nil]
    rcases hw with rfl | ⟨_, _, rfl, rfl, _, _, rfl, ⟨rfl, hstart⟩, clock, hclock, rfl⟩
    · exact ⟨[], ofUnits_nil _, rfl⟩
    · rw [List.nil_append, startsDecimal_amountsText (startsDecimal_of_before hend)] at hstart
      exact ⟨clock, hclock, (clockText_of_ne hstart).symm⟩
  · rintro ⟨hend, clock, hclock, rfl⟩
    refine ⟨clockText clock, [], (List.append_nil _).symm, ?_, rfl, hend⟩
    cases clock with
    | nil => exact Or.inl rfl
    | cons a clock =>
      refine Or.inr ⟨['T'], _, clockText_cons a clock, rfl, [], _, rfl, ⟨rfl, ?_⟩, _, hclock, rfl⟩
      exact (startsDecimal_amountsText (startsDecimal_of_before hend)).mpr (List.cons_ne_nil _ _)

lemma notMem_amountsText (hc : isDecimal c = false) (hunits : c ∉ units)
    (h : OfUnits units amounts) : c ∉ amountsText amounts := by
  intro hmem
  obtain ⟨a, ha, hmem⟩ := List.mem_flatMap.mp hmem
  rcases List.mem_append.mp hmem with hmem | hmem
  · exact a.decimal.notMem hc hmem
  · rw [List.mem_singleton.mp hmem] at hunits
    exact hunits (h.subset (List.mem_map_of_mem ha))

/-- No line feed is part of a date and a time of day. -/
lemma notMem_lineFeed {date clock : List Amount} (hdate : OfUnits dateUnits date)
    (hclock : OfUnits clockUnits clock) : '\n' ∉ amountsText date ++ clockText clock := by
  have hdecimal : isDecimal '\n' = false := by decide
  have hnot := notMem_amountsText hdecimal (by decide) hclock
  rw [List.mem_append, not_or]
  refine ⟨notMem_amountsText hdecimal (by decide) hdate, ?_⟩
  cases clock with
  | nil => exact List.not_mem_nil
  | cons a clock =>
    rw [clockText_cons, List.mem_cons, not_or]
    exact ⟨by decide, hnot⟩

lemma DurationForm.notMem_lineFeed (h : DurationForm t) : '\n' ∉ t := by
  obtain ⟨date, clock, hdate, hclock, -, rfl⟩ := h
  rw [List.mem_cons, not_or]
  exact ⟨by decide, Format.notMem_lineFeed hdate hclock⟩

/-- Before the end of the text, texts without line feeds are not at the end if they are not
empty. -/
lemma before_append_iff (hs : '\n' ∉ s) (hrest : Anchor.finalEnd.Before rest) :
    Anchor.finalEnd.Before (s ++ rest) ↔ s = [] := by
  constructor
  · rintro (h | h)
    · exact (List.append_eq_nil_iff.mp h).1
    · rcases List.append_eq_singleton_iff.mp h with ⟨hnil, -⟩ | ⟨rfl, -⟩
      · exact hnil
      · exact absurd (List.mem_singleton_self _) hs
  · rintro rfl
    exact hrest

lemma spells_duration : SpellsBefore durationNode fun w rest =>
    Anchor.finalEnd.Before rest ∧ DurationForm w := by
  refine ((SpellsBefore.of_spells (spells_char 'P')).sequence
    (spells_ahead_end.sequence (spells_amounts spells_clock 1 dateUnits))).congr fun w rest => ?_
  constructor
  · rintro ⟨_, _, rfl, rfl, _, _, rfl, ⟨rfl, hmore⟩, date, _, hdate, rfl, hend, clock, hclock, rfl⟩
    rw [before_append_iff (Format.notMem_lineFeed hdate hclock) hend] at hmore
    exact ⟨hend, date, clock, hdate, hclock, mt durationText_eq_nil_iff.mpr hmore, rfl⟩
  · rintro ⟨hend, date, clock, hdate, hclock, hne, rfl⟩
    refine ⟨['P'], amountsText date ++ clockText clock, rfl, rfl, [],
      amountsText date ++ clockText clock, rfl, ⟨rfl, ?_⟩, date, _, hdate, rfl, hend, clock, hclock,
      rfl⟩
    rw [before_append_iff (Format.notMem_lineFeed hdate hclock) hend]
    exact mt durationText_eq_nil_iff.mp hne

/-- The texts of durations are those that the pattern finds. -/
theorem isDuration_eq_search (s : List Char) :
    isDuration s = durationPattern.search (String.ofList s) := by
  rw [Bool.eq_iff_iff, isDuration_iff]
  exact (spells_duration.search_iff (fun _ h => h.notMem_lineFeed) rfl rfl).symm

end Format

namespace StringRule

open Format

lemma isoDuration_addedBy : isoDuration.AddedBy "iso_duration" [] := fun _ _ => rfl

lemma isoDuration_acceptsJust {store : Store} {prefs : Preferences} {env : Environment}
    {s : List Char} : isoDuration.AcceptsJust store prefs env s "string.isoDuration"
      (DurationForm (dropFinalLineFeed s)) := by
  refine acceptsJust_of_require .stringIsoDuration (isDuration s) ?_ isDuration_iff
  rw [check, String.toList_ofList]

end StringRule

open Format StringRule

/-- The rule accepts durations, whose amounts are digits of any script and at least one in number,
and those of a time of day at least one if there is a `T`. A line feed may follow. -/
theorem isoDuration_accepts (store : Store) (prefs : Preferences) (env : Environment)
    (s : List Char) :
    let t := dropFinalLineFeed s
    isoDuration.AddedBy "iso_duration" [] ∧ (s = t ∨ s = t ++ ['\n']) ∧
      isoDuration.AcceptsJust store prefs env s "string.isoDuration"
        (∃ date clock, OfUnits ['Y', 'M', 'W', 'D'] date ∧ OfUnits ['H', 'M', 'S'] clock ∧
          date ++ clock ≠ [] ∧ t = 'P' :: (amountsText date ++ clockText clock)) :=
  ⟨isoDuration_addedBy, eq_dropFinalLineFeed_or s, isoDuration_acceptsJust⟩

end InputGuard

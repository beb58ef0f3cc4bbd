import InputGuard.Proofs.Digits
import InputGuard.Schema.DateRule
import Mathlib.Data.List.TakeWhile
import Mathlib.Tactic.IntervalCases

/-!
# Texts of timestamps

The text of a timestamp is a numeral of decimal digits of any script, with a sign or a fraction if
need be, and blanks around it. The number that is nearest to it can be read, with one exception:
information separators are blanks, but not such that may stand around a number.
-/

namespace InputGuard

open Unicode

variable {c : Char}

/-- The blanks that must not stand around a number. -/
def isSeparator (c : Char) : Bool := 0x1C ≤ c.toNat && c.toNat ≤ 0x1F

/-- The basic Latin form of a character of a timestamp. -/
def latin (c : Char) : Char := (plainNumeralChar? c).getD c

lemma isDecimal_iff : isDecimal c = true ↔ ∃ z ∈ decimalZeros, z ≤ c.toNat ∧ c.toNat < z + 10 := by
  simp [isDecimal, decimalValue?, List.find?_isSome]

lemma isBlank_iff : isBlank c = true ↔ ∃ r ∈ blankRanges, r.1 ≤ c.toNat ∧ c.toNat ≤ r.2 := by
  simp [isBlank, inRanges]

lemma isNumeralBlank_iff :
    isNumeralBlank c = true ↔ c.toNat = 32 ∨ 9 ≤ c.toNat ∧ c.toNat ≤ 13 := by
  have hspace : c = ' ' ↔ c.toNat = 32 := Char.toNat_inj.symm
  rw [isNumeralBlank, Bool.or_eq_true, decide_eq_true_iff, Bool.and_eq_true, decide_eq_true_iff,
    decide_eq_true_iff, hspace]

lemma isSeparator_iff : isSeparator c = true ↔ 28 ≤ c.toNat ∧ c.toNat ≤ 31 := by
  simp [isSeparator]

lemma isDecimal_of_isDigit (h : c.isDigit = true) : isDecimal c = true := by
  obtain ⟨hlow, hhigh⟩ := isDigit_iff.mp h
  exact isDecimal_iff.mpr ⟨48, by decide, hlow, by omega⟩

lemma not_isBlank_of_isDecimal (h : isDecimal c = true) : isBlank c = false := by
  have hapart : ∀ z ∈ decimalZeros, ∀ r ∈ blankRanges, z + 10 ≤ r.1 ∨ r.2 < z := by decide
  obtain ⟨z, hz, hlow, hhigh⟩ := isDecimal_iff.mp h
  rw [← Bool.not_eq_true, isBlank_iff]
  rintro ⟨r, hr, hlow', hhigh'⟩
  have hcases := hapart z hz r hr
  omega

lemma isBlank_of_isSeparator (h : isSeparator c = true) : isBlank c = true := by
  obtain ⟨hlow, hhigh⟩ := isSeparator_iff.mp h
  exact isBlank_iff.mpr ⟨(0x1C, 0x20), by decide, hlow, by omega⟩

/-- A decimal digit has a digit as its basic Latin form. -/
lemma plainNumeralChar?_of_isDecimal (h : isDecimal c = true) :
    plainNumeralChar? c = some (latin c) ∧ (latin c).isDigit = true := by
  have hlatin : ∀ z ∈ decimalZeros, z = 48 ∨ 128 ≤ z := by decide
  by_cases hc : c.toNat < 128
  · have hplain : plainNumeralChar? c = some c := by rw [plainNumeralChar?, if_pos hc]
    obtain ⟨z, hz, hlow, hhigh⟩ := isDecimal_iff.mp h
    have hzero := hlatin z hz
    have hdigit : c.isDigit = true := isDigit_iff.mpr (by omega)
    simp [latin, hplain, hdigit]
  · obtain ⟨n, hn⟩ := Option.isSome_iff_exists.mp h
    have hplain : plainNumeralChar? c = some (Char.ofNat (48 + n)) := by
      rw [plainNumeralChar?, if_neg hc, not_isBlank_of_isDecimal h, if_neg Bool.false_ne_true, hn]
      rfl
    have hlt : n < 10 := by
      obtain ⟨z, hfind, rfl⟩ := Option.map_eq_some_iff.mp hn
      have hz := List.find?_some hfind
      rw [Bool.and_eq_true, decide_eq_true_iff, decide_eq_true_iff] at hz
      omega
    have hdigit : (Char.ofNat (48 + n)).isDigit = true := by
      interval_cases n <;> decide
    simp [latin, hplain, hdigit]

lemma plainNumeralChar?_of_isBlank (h : isBlank c = true) :
    plainNumeralChar? c = some (latin c) := by
  by_cases hc : c.toNat < 128
  · simp [latin, plainNumeralChar?, hc]
  · simp [latin, plainNumeralChar?, hc, h]

lemma isNumeralBlank_latin (h : isBlank c = true) (hc : isSeparator c = false) :
    isNumeralBlank (latin c) = true := by
  have hranges : ∀ r ∈ blankRanges, r = (9, 13) ∨ r = (28, 32) ∨ 128 ≤ r.1 := by decide
  by_cases hlow : c.toNat < 128
  · have hplain : latin c = c := by simp [latin, plainNumeralChar?, hlow]
    have hsep : ¬(28 ≤ c.toNat ∧ c.toNat ≤ 31) := by
      rw [← isSeparator_iff, hc]
      exact Bool.false_ne_true
    obtain ⟨r, hr, hfrom, hto⟩ := isBlank_iff.mp h
    rw [hplain, isNumeralBlank_iff]
    rcases hranges r hr with rfl | rfl | hr
    · exact Or.inr ⟨hfrom, hto⟩
    · dsimp only at hfrom hto
      exact Or.inl (by omega)
    · omega
  · have hplain : latin c = ' ' := by simp [latin, plainNumeralChar?, hlow, h]
    rw [hplain]
    rfl

lemma not_isNumeralBlank_of_isDigit (h : c.isDigit = true) : isNumeralBlank c = false := by
  have hdigit := isDigit_iff.mp h
  rw [← Bool.not_eq_true, isNumeralBlank_iff]
  omega

/-- Basic Latin digits are in that form already. -/
lemma map_latin {digits : List Char} (h : ∀ c ∈ digits, c.isDigit = true) :
    digits.map latin = digits := by
  refine (List.map_congr_left fun c hc => ?_).trans (List.map_id _)
  have hplain : plainNumeralChar? c = some c := by
    have hhigh := (isDigit_iff.mp (h c hc)).2
    exact if_pos (by omega)
  rw [latin, hplain]
  rfl

section Trimming

variable {α : Type} {p : α → Bool} {lead core trail : List α}

lemma dropWhile_append_core (hlead : ∀ a ∈ lead, p a = true) (hcore : ∀ a ∈ core, p a = false)
    (hne : core ≠ []) (rest : List α) : (lead ++ (core ++ rest)).dropWhile p = core ++ rest := by
  rw [List.dropWhile_append_of_pos hlead]
  cases core with
  | nil => exact absurd rfl hne
  | cons a more =>
    have ha : ¬p a = true := by simp [hcore a List.mem_cons_self]
    rw [List.cons_append, List.dropWhile_cons_of_neg ha]

lemma trimWhere_append (hlead : ∀ a ∈ lead, p a = true) (htrail : ∀ a ∈ trail, p a = true)
    (hcore : ∀ a ∈ core, p a = false) (hne : core ≠ []) :
    trimWhere p (lead ++ (core ++ trail)) = core := by
  have htrail' : ∀ a ∈ trail.reverse, p a = true := fun a ha => htrail a (List.mem_reverse.mp ha)
  have hcore' : ∀ a ∈ core.reverse, p a = false := fun a ha => hcore a (List.mem_reverse.mp ha)
  have hne' : core.reverse ≠ [] := fun h => hne (List.reverse_eq_nil_iff.mp h)
  have hback := dropWhile_append_core htrail' hcore' hne' []
  rw [List.append_nil] at hback
  unfold trimWhere
  rw [dropWhile_append_core hlead hcore hne, List.reverse_append, hback, List.reverse_reverse]

lemma mem_trimWhere {a : α} {s : List α} (h : a ∈ s) (ha : p a = false) : a ∈ trimWhere p s := by
  have hdrop : ∀ {s : List α}, a ∈ s → a ∈ s.dropWhile p := by
    intro s h
    rw [← List.takeWhile_append_dropWhile (p := p) (l := s)] at h
    rcases List.mem_append.mp h with htake | hdrop
    · have hp := List.mem_takeWhile_imp htake
      rw [ha] at hp
      cases hp
    · exact hdrop
  unfold trimWhere
  exact List.mem_reverse.mpr (hdrop (List.mem_reverse.mpr (hdrop h)))

end Trimming

/-- A numeral with the blanks around it: sign, digits, and the digits of a fraction. -/
structure NumeralText where
  lead : List Char
  sign : List Char
  whole : List Char
  fraction : Option (List Char)
  trail : List Char

namespace NumeralText

/-- The fraction with its point. -/
def tail (t : NumeralText) : List Char := t.fraction.elim [] ('.' :: ·)

/-- The numeral without the blanks around it. -/
def core (t : NumeralText) : List Char := t.sign ++ (t.whole ++ t.tail)

def chars (t : NumeralText) : List Char := t.lead ++ (t.core ++ t.trail)

/-- The parts are what their names say. -/
structure WellFormed (t : NumeralText) : Prop where
  lead : ∀ c ∈ t.lead, isBlank c = true
  sign : t.sign = [] ∨ t.sign = ['-'] ∨ t.sign = ['+']
  whole : ∀ c ∈ t.whole, isDecimal c = true
  whole_ne : t.whole ≠ []
  fraction : ∀ ds, t.fraction = some ds → ∀ c ∈ ds, isDecimal c = true
  fraction_ne : t.fraction ≠ some []
  trail : ∀ c ∈ t.trail, isBlank c = true

end NumeralText

lemma all_takeWhile {α : Type} (p : α → Bool) (s : List α) : ∀ a ∈ s.takeWhile p, p a = true :=
  fun _ ha => List.mem_takeWhile_imp ha

lemma takeWhile_ne_nil {α : Type} {p : α → Bool} {s : List α}
    (h : (s.dropWhile p).length < s.length) : s.takeWhile p ≠ [] := by
  intro hnil
  have hlength := congrArg List.length (List.takeWhile_append_dropWhile (p := p) (l := s))
  rw [hnil, List.nil_append] at hlength
  omega

/-- A sign or none is taken from the start of a text. -/
lemma exists_sign (s : List Char) :
    ∃ sign rest, s = sign ++ rest ∧ (sign = [] ∨ sign = ['-'] ∨ sign = ['+']) ∧
      (if s.head? = some '-' || s.head? = some '+' then s.tail else s) = rest := by
  cases s with
  | nil => exact ⟨[], [], rfl, Or.inl rfl, rfl⟩
  | cons c rest =>
    by_cases hminus : c = '-'
    · exact ⟨['-'], rest, by rw [hminus]; rfl, Or.inr (Or.inl rfl), by simp [hminus]⟩
    · by_cases hplus : c = '+'
      · exact ⟨['+'], rest, by rw [hplus]; rfl, Or.inr (Or.inr rfl), by simp [hplus]⟩
      · exact ⟨[], c :: rest, rfl, Or.inl rfl, by simp [hminus, hplus]⟩

/-- The text of a timestamp is a numeral. -/
theorem exists_numeralText {s : List Char} (h : isTimestampText s = true) :
    ∃ t : NumeralText, t.WellFormed ∧ t.chars = s := by
  obtain ⟨sign, digits, hsplit, hsign, hdigits⟩ := exists_sign (s.dropWhile isBlank)
  have hlead := all_takeWhile isBlank s
  have hstart : s = s.takeWhile isBlank ++ (sign ++ digits) := by
    rw [← hsplit, List.takeWhile_append_dropWhile]
  unfold isTimestampText at h
  dsimp only at h
  rw [hdigits, Bool.and_eq_true, decide_eq_true_iff] at h
  obtain ⟨hlength, hend⟩ := h
  have hwhole := all_takeWhile isDecimal digits
  have hwhole_ne : digits.takeWhile isDecimal ≠ [] := takeWhile_ne_nil hlength
  have hrest : digits.takeWhile isDecimal ++ digits.dropWhile isDecimal = digits :=
    List.takeWhile_append_dropWhile
  generalize digits.takeWhile isDecimal = whole at *
  generalize digits.dropWhile isDecimal = rest at *
  subst hrest
  -- a point without digits after it is no part of a numeral, and no blank either
  by_cases hpoint : rest.head? = some '.' ∧
      (rest.tail.dropWhile isDecimal).length < rest.tail.length
  · obtain ⟨hhead, hfraction⟩ := hpoint
    rw [if_pos hhead, if_pos hfraction, List.all_eq_true] at hend
    have htail : rest = '.' :: rest.tail := by
      cases rest with
      | nil => cases hhead
      | cons c more => rw [Option.some.inj hhead, List.tail_cons]
    refine ⟨⟨s.takeWhile isBlank, sign, whole, some (rest.tail.takeWhile isDecimal),
      rest.tail.dropWhile isDecimal⟩, ⟨hlead, hsign, hwhole, hwhole_ne, ?_, ?_, hend⟩, ?_⟩
    · rintro ds ⟨⟩
      exact all_takeWhile isDecimal rest.tail
    · intro hnone
      exact takeWhile_ne_nil hfraction (Option.some.inj hnone)
    · conv_rhs => rw [hstart, htail]
      simp [NumeralText.chars, NumeralText.core, NumeralText.tail,
        List.takeWhile_append_dropWhile]
  · have hblank : ∀ c ∈ rest, isBlank c = true := by
      by_cases hhead : rest.head? = some '.'
      · have hfraction : ¬(rest.tail.dropWhile isDecimal).length < rest.tail.length :=
          fun h => hpoint ⟨hhead, h⟩
        rwa [if_pos hhead, if_neg hfraction, List.all_eq_true] at hend
      · rwa [if_neg hhead, List.dropWhile_nil, if_neg (lt_irrefl _), List.all_eq_true] at hend
    refine ⟨⟨s.takeWhile isBlank, sign, whole, none, rest⟩,
      ⟨hlead, hsign, hwhole, hwhole_ne, nofun, nofun, hblank⟩, ?_⟩
    conv_rhs => rw [hstart]
    simp [NumeralText.chars, NumeralText.core, NumeralText.tail]

namespace NumeralText

variable {t : NumeralText}

/-- After the sign there are digits and a point. -/
lemma WellFormed.mem_unsigned (h : t.WellFormed) {c : Char} (hc : c ∈ t.whole ++ t.tail) :
    isDecimal c = true ∨ c = '.' := by
  rcases List.mem_append.mp hc with hwhole | htail
  · exact Or.inl (h.whole c hwhole)
  · cases hf : t.fraction with
    | none => simp [tail, hf] at htail
    | some ds =>
      rw [tail, hf] at htail
      rcases List.mem_cons.mp htail with hpoint | hds
      · exact Or.inr hpoint
      · exact Or.inl (h.fraction ds hf c hds)

/-- The characters of a numeral: a sign, digits, and a point. -/
lemma WellFormed.mem_core (h : t.WellFormed) {c : Char} (hc : c ∈ t.core) :
    isDecimal c = true ∨ c = '-' ∨ c = '+' ∨ c = '.' := by
  rcases List.mem_append.mp hc with hsign | hc
  · rcases h.sign with hs | hs | hs <;> rw [hs] at hsign <;> simp at hsign <;> simp [hsign]
  · exact (h.mem_unsigned hc).imp_right fun hpoint => Or.inr (Or.inr hpoint)

lemma WellFormed.not_isBlank (h : t.WellFormed) {c : Char} (hc : c ∈ t.core) :
    isBlank c = false := by
  rcases h.mem_core hc with hdigit | rfl | rfl | rfl
  · exact not_isBlank_of_isDecimal hdigit
  all_goals decide

lemma WellFormed.core_ne (h : t.WellFormed) : t.core ≠ [] := by
  intro hnil
  have hwhole := (List.append_eq_nil_iff.mp (List.append_eq_nil_iff.mp hnil).2).1
  exact h.whole_ne hwhole

lemma WellFormed.trim_chars (h : t.WellFormed) : trim t.chars = t.core :=
  trimWhere_append h.lead h.trail (fun _ hc => h.not_isBlank hc) h.core_ne

lemma WellFormed.lead_eq_nil (h : t.WellFormed) {c : Char} (hhead : t.chars.head? = some c)
    (hc : isBlank c = false) : t.lead = [] := by
  cases hl : t.lead with
  | nil => rfl
  | cons d lead =>
    have hblank : isBlank d = true := h.lead d (hl ▸ List.mem_cons_self)
    rw [chars, hl] at hhead
    rw [Option.some.inj hhead, hc] at hblank
    cases hblank

lemma dropWhile_isDecimal_of_isBlank {s : List Char} (h : ∀ c ∈ s, isBlank c = true) :
    s.dropWhile isDecimal = s := by
  cases s with
  | nil => rfl
  | cons c rest =>
    refine List.dropWhile_cons_of_neg fun hdigit => ?_
    have hblank := h c List.mem_cons_self
    rw [not_isBlank_of_isDecimal hdigit] at hblank
    cases hblank

lemma WellFormed.head?_whole (h : t.WellFormed) (rest : List Char) {c : Char}
    (hc : isDecimal c = false) : (t.whole ++ rest).head? ≠ some c := by
  cases hw : t.whole with
  | nil => exact absurd hw h.whole_ne
  | cons d more =>
    intro heq
    have hdigit : isDecimal d = true := h.whole d (hw ▸ List.mem_cons_self)
    rw [List.cons_append, List.head?_cons] at heq
    rw [Option.some.inj heq, hc] at hdigit
    cases hdigit

/-- A numeral is the text of a timestamp. -/
theorem WellFormed.isTimestampText (h : t.WellFormed) : isTimestampText t.chars = true := by
  have hstart : t.chars.dropWhile isBlank = t.sign ++ (t.whole ++ (t.tail ++ t.trail)) := by
    rw [chars, dropWhile_append_core h.lead (fun _ hc => h.not_isBlank hc) h.core_ne, core,
      List.append_assoc, List.append_assoc]
  have hsign : (if (t.sign ++ (t.whole ++ (t.tail ++ t.trail))).head? = some '-' ||
      (t.sign ++ (t.whole ++ (t.tail ++ t.trail))).head? = some '+' then
        (t.sign ++ (t.whole ++ (t.tail ++ t.trail))).tail
      else t.sign ++ (t.whole ++ (t.tail ++ t.trail))) = t.whole ++ (t.tail ++ t.trail) := by
    rcases h.sign with hs | hs | hs <;> rw [hs]
    · have hminus : (t.whole ++ (t.tail ++ t.trail)).head? ≠ some '-' :=
        h.head?_whole _ (by decide)
      have hplus : (t.whole ++ (t.tail ++ t.trail)).head? ≠ some '+' := h.head?_whole _ (by decide)
      rw [List.nil_append, decide_eq_false hminus, decide_eq_false hplus, Bool.or_false,
        if_neg Bool.false_ne_true]
    · rfl
    · rfl
  have hlength : (t.tail ++ t.trail).length < (t.whole ++ (t.tail ++ t.trail)).length := by
    have hpos := List.length_pos_iff.mpr h.whole_ne
    simp only [List.length_append]
    omega
  have hblank := List.all_eq_true.mpr h.trail
  unfold InputGuard.isTimestampText
  dsimp only
  rw [hstart, hsign, List.dropWhile_append_of_pos h.whole]
  cases hf : t.fraction with
  | none =>
    have htail : t.tail = [] := by rw [tail, hf]; rfl
    have hpoint : t.trail.head? ≠ some '.' := by
      intro hhead
      exact absurd (h.trail '.' (List.mem_of_mem_head? hhead)) (by decide)
    rw [htail, List.nil_append] at hlength ⊢
    rw [dropWhile_isDecimal_of_isBlank h.trail, decide_eq_true hlength, if_neg hpoint,
      List.dropWhile_nil, if_neg (lt_irrefl _), hblank, Bool.and_true]
  | some ds =>
    have htail : t.tail = '.' :: ds := by rw [tail, hf]; rfl
    have hne : ds ≠ [] := fun hnil => h.fraction_ne (hnil ▸ hf)
    have hpoint : ('.' :: ds ++ t.trail).dropWhile isDecimal = '.' :: (ds ++ t.trail) := rfl
    have hlast : t.trail.length < (ds ++ t.trail).length := by
      rw [List.length_append]
      exact Nat.lt_add_of_pos_left (List.length_pos_iff.mpr hne)
    rw [htail] at hlength ⊢
    rw [hpoint, List.head?_cons, if_pos rfl, List.tail_cons,
      List.dropWhile_append_of_pos (h.fraction ds hf), dropWhile_isDecimal_of_isBlank h.trail,
      if_pos hlast, hblank, Bool.and_true]
    exact decide_eq_true hlength

/-- The digits of a numeral in basic Latin form. -/
def digits (t : NumeralText) : List Char := (t.whole ++ t.fraction.getD []).map latin

/-- The number that is read from a numeral. -/
def number (t : NumeralText) : Binary64 :=
  .ofDecimal (t.sign = ['-']) (digitsValue t.digits) (-(t.fraction.getD []).length)

end NumeralText

/-- The texts of timestamps are the numerals with blanks around them. -/
theorem isTimestampText_iff {s : List Char} :
    isTimestampText s = true ↔ ∃ t : NumeralText, t.WellFormed ∧ t.chars = s :=
  ⟨exists_numeralText, fun ⟨_, ht, hs⟩ => hs ▸ ht.isTimestampText⟩

lemma mapM_eq_map {α β : Type} {f : α → Option β} {g : α → β} :
    ∀ {s : List α}, (∀ a ∈ s, f a = some (g a)) → s.mapM f = some (s.map g)
  | [], _ => rfl
  | a :: rest, h => by
    have hrest : rest.mapM f = some (rest.map g) :=
      mapM_eq_map fun b hb => h b (List.mem_cons_of_mem a hb)
    rw [List.mapM_cons, h a List.mem_cons_self, hrest]
    rfl

/-- The characters before the capital letters are no capital letters. -/
lemma toLower_of_lt (h : c.toNat < 65) : c.toLower = c := by
  unfold Char.toLower
  refine dif_neg fun hupper => ?_
  have hlow : 65 ≤ c.toNat := hupper.1
  omega

lemma isWordText_of_mem {word : String} {s : List Char} (hc : c ∈ s) (hlt : c.toNat < 65)
    (hword : word.toList.all (65 ≤ ·.toNat) = true) : isWordText word s = false := by
  rw [isWordText, beq_eq_false_iff_ne]
  intro heq
  have hmem : c.toLower ∈ word.toList := heq ▸ List.mem_map_of_mem hc
  rw [toLower_of_lt hlt] at hmem
  have hlow : 65 ≤ c.toNat := of_decide_eq_true (List.all_eq_true.mp hword c hmem)
  omega

lemma underscoresFit_of_notMem : ∀ {s : List Char}, '_' ∉ s → underscoresFit s = true
  | [], _ => rfl
  | c :: rest, h => by
    have hmem : '_' ∉ rest := fun hmem => h (List.mem_cons_of_mem c hmem)
    unfold underscoresFit
    rw [underscoresFit_of_notMem hmem, Bool.and_true]
    split
    · exact absurd List.mem_cons_self hmem
    · exact absurd List.mem_cons_self hmem
    · rfl

/-- Digits, and perhaps a point and digits, are read as they stand. -/
lemma unsignedDecimal?_eq {whole fraction : List Char} (hwhole : ∀ c ∈ whole, c.isDigit = true)
    (hne : whole ≠ []) (hfraction : ∀ c ∈ fraction, c.isDigit = true) {rest : List Char}
    (hrest : rest = '.' :: fraction ∨ rest = [] ∧ fraction = []) :
    unsignedDecimal? (whole ++ rest) =
      some ⟨digitsValue (whole ++ fraction), -(fraction.length : ℤ)⟩ := by
  have hstop : rest.takeWhile Char.isDigit = [] ∧ rest.dropWhile Char.isDigit = rest := by
    rcases hrest with rfl | ⟨rfl, -⟩
    · exact ⟨rfl, rfl⟩
    · exact ⟨rfl, rfl⟩
  have htake : (whole ++ rest).takeWhile Char.isDigit = whole := by
    rw [List.takeWhile_append_of_pos hwhole, hstop.1, List.append_nil]
  have hdrop : (whole ++ rest).dropWhile Char.isDigit = rest := by
    rw [List.dropWhile_append_of_pos hwhole, hstop.2]
  have hempty : whole.isEmpty = false := by
    cases whole with
    | nil => exact absurd rfl hne
    | cons _ _ => rfl
  unfold unsignedDecimal?
  dsimp only
  rw [htake, hdrop, hempty]
  rcases hrest with rfl | ⟨rfl, rfl⟩
  · have htake' : fraction.takeWhile Char.isDigit = fraction :=
      List.takeWhile_eq_self_iff.mpr hfraction
    have hdrop' : fraction.dropWhile Char.isDigit = [] := List.dropWhile_eq_nil_iff.mpr hfraction
    simp [htake', hdrop', readExponent?]
  · simp [readExponent?]

/-- A sign is taken off before a digit. -/
lemma splitSign_append {sign rest : List Char} (hsign : sign = [] ∨ sign = ['-'] ∨ sign = ['+'])
    (hc : rest.head? = some c) (hdigit : c.isDigit = true) :
    splitSign (sign ++ rest) = (decide (sign = ['-']), rest) := by
  rcases hsign with rfl | rfl | rfl
  · rw [List.nil_append]
    unfold splitSign
    split
    · cases hc
      cases hdigit
    · cases hc
      cases hdigit
    · rfl
  · rfl
  · rfl

/-- A character that comes before the signs is in a text after its sign is taken off. -/
lemma mem_splitSign {s : List Char} (hc : c ∈ s) (hlt : c.toNat < 43) : c ∈ (splitSign s).2 := by
  have hstep : ∀ {sign : Char} {rest : List Char},
      43 ≤ sign.toNat → c ∈ sign :: rest → c ∈ rest := by
    intro sign rest hsign hmem
    refine (List.mem_cons.mp hmem).resolve_left fun heq => ?_
    rw [heq] at hlt
    omega
  unfold splitSign
  split
  · exact hstep (by decide) hc
  · exact hstep (by decide) hc
  · exact hc

lemma readExponent?_eq_none {s : List Char} (hc : c ∈ s) (hlt : c.toNat < 43) :
    readExponent? s = none := by
  cases s with
  | nil => cases hc
  | cons mark rest =>
    unfold readExponent?
    by_cases hmark : mark = 'e' ∨ mark = 'E'
    · have hrest : c ∈ rest := by
        refine (List.mem_cons.mp hc).resolve_left fun heq => ?_
        rcases hmark with rfl | rfl <;> rw [heq] at hlt <;> exact absurd hlt (by decide)
      have hdigits : (splitSign rest).2.all Char.isDigit = false := by
        rw [List.all_eq_false]
        refine ⟨c, mem_splitSign hrest hlt, fun hdigit => ?_⟩
        have hlow := (isDigit_iff.mp hdigit).1
        omega
      dsimp only
      rw [if_pos (by simpa using hmark), hdigits, Bool.not_false, Bool.or_true, if_pos rfl]
    · exact if_neg (by simpa using hmark)

lemma unsignedDecimal?_eq_none {s : List Char} (hc : c ∈ s) (hlt : c.toNat < 43) :
    unsignedDecimal? s = none := by
  have hdrop : ∀ {s : List Char}, c ∈ s → c ∈ s.dropWhile Char.isDigit := by
    intro s hc
    rw [← List.takeWhile_append_dropWhile (p := Char.isDigit) (l := s)] at hc
    refine (List.mem_append.mp hc).resolve_left fun htake => ?_
    have hlow := (isDigit_iff.mp (List.mem_takeWhile_imp htake)).1
    omega
  unfold unsignedDecimal?
  dsimp only
  by_cases hpoint : (s.dropWhile Char.isDigit).head? = some '.'
  · have hmem : c ∈ (s.dropWhile Char.isDigit).tail.dropWhile Char.isDigit := by
      have hmem := hdrop hc
      cases hrest : s.dropWhile Char.isDigit with
      | nil => rw [hrest] at hpoint; cases hpoint
      | cons d rest =>
        rw [hrest] at hmem hpoint
        refine hdrop ((List.mem_cons.mp hmem).resolve_left fun heq => ?_)
        rw [heq, Option.some.inj hpoint] at hlt
        exact absurd hlt (by decide)
    rw [if_pos hpoint, Option.map_some, Option.getD_some, Option.map_some, Option.getD_some,
      readExponent?_eq_none hmem hlt]
    exact ite_self none
  · rw [if_neg hpoint, Option.map_none, Option.getD_none, Option.map_none, Option.getD_none,
      readExponent?_eq_none (hdrop hc) hlt]
    exact ite_self none

lemma mem_of_mapM {α β : Type} {f : α → Option β} {a : α} {b : β} (hf : f a = some b) :
    ∀ {s : List α} {t : List β}, s.mapM f = some t → a ∈ s → b ∈ t
  | d :: rest, t, h, ha => by
    rw [List.mapM_cons] at h
    obtain ⟨first, hfirst, h⟩ := Option.bind_eq_some_iff.mp h
    obtain ⟨more, hmore, h⟩ := Option.bind_eq_some_iff.mp h
    obtain rfl := Option.some.inj h
    rcases List.mem_cons.mp ha with rfl | ha
    · rw [hf] at hfirst
      rw [Option.some.inj hfirst]
      exact List.mem_cons_self
    · exact List.mem_cons_of_mem first (mem_of_mapM hf hmore ha)

/-- A text with a separator in it is the text of no number. -/
theorem read?_eq_none {s : String} (hc : c ∈ s.toList) (hsep : isSeparator c = true) :
    Binary64.read? s = none := by
  have hbounds := isSeparator_iff.mp hsep
  have hlt : c.toNat < 43 := by omega
  have hblank : isNumeralBlank c = false := by
    rw [← Bool.not_eq_true, isNumeralBlank_iff]
    omega
  unfold Binary64.read?
  cases hplain : plainNumeral? s with
  | none => rfl
  | some cs =>
    have hmem : c ∈ cs := by
      obtain ⟨plain, hmap, rfl⟩ := Option.map_eq_some_iff.mp hplain
      have hself : plainNumeralChar? c = some c := if_pos (by omega)
      exact mem_trimWhere (mem_of_mapM hself hmap hc) hblank
    have hcs := mem_splitSign hmem hlt
    have hinfinity : isInfinityText (splitSign cs).2 = false := by
      rw [isInfinityText, isWordText_of_mem hcs (by omega) (by decide),
        isWordText_of_mem hcs (by omega) (by decide), Bool.or_false]
    have hnan : isWordText "nan" (splitSign cs).2 = false :=
      isWordText_of_mem hcs (by omega) (by decide)
    have hdecimal : unsignedDecimal? ((splitSign cs).2.filter (· != '_')) = none := by
      refine unsignedDecimal?_eq_none (List.mem_filter.mpr ⟨hcs, ?_⟩) hlt
      refine bne_iff_ne.mpr fun heq => ?_
      rw [heq] at hlt
      exact absurd hlt (by decide)
    simp [hinfinity, hnan, hdecimal]

namespace NumeralText

variable {t : NumeralText}

lemma WellFormed.plain_core (h : t.WellFormed) (hc : c ∈ t.core) :
    plainNumeralChar? c = some (latin c) ∧ isNumeralBlank (latin c) = false := by
  rcases h.mem_core hc with hdigit | rfl | rfl | rfl
  · obtain ⟨hplain, hlatin⟩ := plainNumeralChar?_of_isDecimal hdigit
    exact ⟨hplain, not_isNumeralBlank_of_isDigit hlatin⟩
  all_goals exact ⟨rfl, by decide⟩

lemma WellFormed.plainNumeral? (h : t.WellFormed) (hplain : ∀ c ∈ t.chars, isSeparator c = false)
    {s : String} (hs : s.toList = t.chars) : plainNumeral? s = some (t.core.map latin) := by
  have hmap : t.chars.mapM plainNumeralChar? = some (t.chars.map latin) := by
    refine mapM_eq_map fun c hc => ?_
    rcases List.mem_append.mp hc with hlead | hc
    · exact plainNumeralChar?_of_isBlank (h.lead c hlead)
    rcases List.mem_append.mp hc with hcore | htrail
    · exact (h.plain_core hcore).1
    · exact plainNumeralChar?_of_isBlank (h.trail c htrail)
  have hlead : ∀ c ∈ t.lead.map latin, isNumeralBlank c = true := by
    refine List.forall_mem_map.mpr fun c hc => isNumeralBlank_latin (h.lead c hc) ?_
    exact hplain c (List.mem_append_left _ hc)
  have htrail : ∀ c ∈ t.trail.map latin, isNumeralBlank c = true := by
    refine List.forall_mem_map.mpr fun c hc => isNumeralBlank_latin (h.trail c hc) ?_
    exact hplain c (List.mem_append_right _ (List.mem_append_right _ hc))
  have hcore : ∀ c ∈ t.core.map latin, isNumeralBlank c = false :=
    List.forall_mem_map.mpr fun c hc => (h.plain_core hc).2
  have hne : t.core.map latin ≠ [] := fun hnil => h.core_ne (List.map_eq_nil_iff.mp hnil)
  rw [InputGuard.plainNumeral?, hs, hmap, Option.map_some, chars, List.map_append, List.map_append,
    trimWhere_append hlead htrail hcore hne]

lemma WellFormed.isDigit_whole (h : t.WellFormed) : ∀ c ∈ t.whole.map latin, c.isDigit = true :=
  List.forall_mem_map.mpr fun c hc => (plainNumeralChar?_of_isDecimal (h.whole c hc)).2

lemma WellFormed.isDigit_fraction (h : t.WellFormed) :
    ∀ c ∈ (t.fraction.getD []).map latin, c.isDigit = true := by
  refine List.forall_mem_map.mpr fun c hc => ?_
  cases hf : t.fraction with
  | none => rw [hf] at hc; cases hc
  | some ds =>
    rw [hf] at hc
    exact (plainNumeralChar?_of_isDecimal (h.fraction ds hf c hc)).2

lemma tail_map_latin : t.tail.map latin = '.' :: (t.fraction.getD []).map latin ∨
    t.tail.map latin = [] ∧ (t.fraction.getD []).map latin = [] := by
  unfold tail
  cases t.fraction with
  | none => exact Or.inr ⟨rfl, rfl⟩
  | some ds => exact Or.inl rfl

lemma WellFormed.splitSign_core (h : t.WellFormed) : splitSign (t.core.map latin) =
    (decide (t.sign = ['-']), t.whole.map latin ++ t.tail.map latin) := by
  have hsign : t.sign.map latin = t.sign := by
    rcases h.sign with hs | hs | hs <;> rw [hs] <;> rfl
  obtain ⟨c, rest, hw⟩ := List.exists_cons_of_ne_nil h.whole_ne
  have hdigit : (latin c).isDigit = true :=
    (plainNumeralChar?_of_isDecimal (h.whole c (hw ▸ List.mem_cons_self))).2
  rw [core, List.map_append, List.map_append, hsign]
  exact splitSign_append h.sign (by rw [hw]; rfl) hdigit

/-- The number of a numeral without separators is read. -/
theorem WellFormed.read? (h : t.WellFormed) (hplain : ∀ c ∈ t.chars, isSeparator c = false)
    {s : String} (hs : s.toList = t.chars) : Binary64.read? s = some t.number := by
  obtain ⟨d, hd⟩ : ∃ d, d ∈ t.whole.map latin :=
    List.exists_mem_of_ne_nil _ fun hnil => h.whole_ne (List.map_eq_nil_iff.mp hnil)
  have hlt : d.toNat < 65 := by
    have hhigh := (isDigit_iff.mp (h.isDigit_whole d hd)).2
    omega
  have hmem : d ∈ t.whole.map latin ++ t.tail.map latin := List.mem_append_left _ hd
  have hunderscore : '_' ∉ t.whole.map latin ++ t.tail.map latin := by
    intro hmem
    rcases List.mem_append.mp hmem with hwhole | htail
    · exact absurd (h.isDigit_whole '_' hwhole) (by decide)
    · rcases t.tail_map_latin with heq | ⟨heq, -⟩
      · rw [heq] at htail
        have hfraction := (List.mem_cons.mp htail).resolve_left (by decide)
        exact absurd (h.isDigit_fraction '_' hfraction) (by decide)
      · rw [heq] at htail
        cases htail
  have hhead : (t.whole.map latin ++ t.tail.map latin).head? ≠ some '_' := fun hhead =>
    hunderscore (List.mem_of_mem_head? hhead)
  have hinfinity : isInfinityText (t.whole.map latin ++ t.tail.map latin) = false := by
    rw [isInfinityText, isWordText_of_mem hmem hlt (by decide),
      isWordText_of_mem hmem hlt (by decide), Bool.or_false]
  have hnan : isWordText "nan" (t.whole.map latin ++ t.tail.map latin) = false :=
    isWordText_of_mem hmem hlt (by decide)
  have hfilter : (t.whole.map latin ++ t.tail.map latin).filter (· != '_') =
      t.whole.map latin ++ t.tail.map latin := by
    refine List.filter_eq_self.mpr fun c hc => bne_iff_ne.mpr fun heq => ?_
    exact hunderscore (heq ▸ hc)
  have hdecimal := unsignedDecimal?_eq h.isDigit_whole
    (fun hnil => h.whole_ne (List.map_eq_nil_iff.mp hnil)) h.isDigit_fraction t.tail_map_latin
  unfold Binary64.read?
  rw [h.plainNumeral? hplain hs]
  rw [Option.bind_eq_bind, Option.bind_some, h.splitSign_core]
  dsimp only
  rw [hinfinity, hnan, decide_eq_false hhead, underscoresFit_of_notMem hunderscore, hfilter,
    hdecimal]
  simp [number, digits]

end NumeralText

/-- The text of a timestamp is the text of a number unless it has separators around it. -/
theorem read?_eq_none_iff {s : String} (h : isTimestampText s.toList = true) :
    Binary64.read? s = none ↔ ∃ c ∈ s.toList, isSeparator c = true := by
  constructor
  · intro hnone
    by_contra hplain
    obtain ⟨t, ht, hchars⟩ := exists_numeralText h
    have hfree : ∀ c ∈ t.chars, isSeparator c = false := fun c hc => by
      simpa using fun hsep => hplain ⟨c, hchars ▸ hc, hsep⟩
    have hsome := ht.read? hfree hchars.symm
    rw [hnone] at hsome
    cases hsome
  · rintro ⟨c, hc, hsep⟩
    exact read?_eq_none hc hsep

end InputGuard

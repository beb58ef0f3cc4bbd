import InputGuard.Proofs.BinaryIntegers
import InputGuard.Proofs.ExactNumbers
import InputGuard.Proofs.ReachedRules
import InputGuard.Proofs.TimestampTexts

/-!
# Texts of whole numbers

A sign and digits are read as the binary number nearest to the integer that they denote. Up to the
greatest exact integer that is the integer itself. Beyond it the nearest number is beyond it too,
so that no other integer is ever taken for the one that is written.
-/

namespace InputGuard

open Unicode

/-- One digit or more after a sign or none. -/
structure WholeNumeral where
  sign : List Char
  digits : List Char
  sign_eq : sign = [] ∨ sign = ['-'] ∨ sign = ['+']
  isDigit : ∀ c ∈ digits, c.isDigit = true
  digits_ne : digits ≠ []

namespace WholeNumeral

variable (t : WholeNumeral)

def chars : List Char := t.sign ++ t.digits

/-- The integer without its sign. -/
def magnitude : ℕ := digitsValue t.digits

def negative : Bool := t.sign = ['-']

/-- The integer that is denoted. -/
def value : ℤ := if t.negative then -t.magnitude else t.magnitude

lemma natAbs_value : t.value.natAbs = t.magnitude := by
  unfold value
  split <;> omega

variable {t} {c : Char}

lemma mem_chars (h : c ∈ t.chars) : c.isDigit = true ∨ c = '-' ∨ c = '+' := by
  rcases List.mem_append.mp h with hsign | hdigit
  · rcases t.sign_eq with hs | hs | hs <;> rw [hs] at hsign <;> simp at hsign <;> simp [hsign]
  · exact Or.inl (t.isDigit c hdigit)

lemma splitSign_chars : splitSign t.chars = (t.negative, t.digits) := by
  obtain ⟨c, rest, hd⟩ := List.exists_cons_of_ne_nil t.digits_ne
  have hdigit : c.isDigit = true := t.isDigit c (hd ▸ List.mem_cons_self)
  exact splitSign_append t.sign_eq (by rw [hd]; rfl) hdigit

/-- A word is no numeral. -/
lemma not_isWordText {word : String} (hword : word.toList.all (65 ≤ ·.toNat) = true) {k : ℕ}
    (hk : 0 < k) : isWordText word (t.digits.take k) = false := by
  obtain ⟨c, rest, hd⟩ := List.exists_cons_of_ne_nil t.digits_ne
  have hdigit := isDigit_iff.mp (t.isDigit c (hd ▸ List.mem_cons_self))
  obtain ⟨j, rfl⟩ := Nat.exists_eq_add_of_lt hk
  rw [hd, Nat.zero_add, List.take_succ_cons]
  exact isWordText_of_mem List.mem_cons_self (by omega) hword

lemma not_isInfinityText : isInfinityText t.digits = false := by
  have hword : ∀ word : String, word.toList.all (65 ≤ ·.toNat) = true →
      isWordText word t.digits = false := by
    intro word hword
    have htake := not_isWordText (t := t) hword (List.length_pos_iff.mpr t.digits_ne)
    rwa [List.take_length] at htake
  rw [isInfinityText, hword "inf" (by decide), hword "infinity" (by decide), Bool.or_false]

/-- Decimal numbers have a limited number of digits, and the numeral denotes one up to there. -/
lemma readDecimal? {s : String} (hs : trim s.toList = t.chars) : readDecimal? s =
    if decimalInRange ⟨t.magnitude, 0⟩ then some (.number t.negative ⟨t.magnitude, 0⟩)
    else none := by
  have hchars : ∀ c ∈ t.chars, c ≠ '_' ∧ plainDecimalChar? c = some c := by
    intro c hc
    rcases mem_chars hc with hdigit | rfl | rfl
    · have hbounds := isDigit_iff.mp hdigit
      refine ⟨fun heq => ?_, ?_⟩
      · rw [heq] at hdigit
        cases hdigit
      · rw [plainDecimalChar?, if_neg (by omega), if_pos (by omega)]
    · exact ⟨by decide, rfl⟩
    · exact ⟨by decide, rfl⟩
  have hfilter : t.chars.filter (· != '_') = t.chars :=
    List.filter_eq_self.mpr fun c hc => bne_iff_ne.mpr (hchars c hc).1
  have hplain : t.chars.mapM plainDecimalChar? = some t.chars :=
    (mapM_eq_map fun c hc => (hchars c hc).2).trans (congrArg some (List.map_id _))
  have hdecimal : unsignedDecimal? t.digits = some ⟨t.magnitude, 0⟩ := by
    have hnone : ∀ c ∈ ([] : List Char), c.isDigit = true := nofun
    have hread := unsignedDecimal?_eq t.isDigit t.digits_ne hnone (Or.inr ⟨rfl, rfl⟩)
    rwa [List.append_nil] at hread
  unfold InputGuard.readDecimal?
  dsimp only
  rw [hs, hfilter, hplain, Option.bind_eq_bind, Option.bind_some, splitSign_chars]
  dsimp only
  rw [not_isInfinityText, not_isWordText (by decide) (by decide),
    not_isWordText (by decide) (by decide), hdecimal]
  rfl

end WholeNumeral

/-- Decimal numbers have `10 ^ 18` digits at most. -/
lemma decimalInRange_iff (n : ℕ) : decimalInRange ⟨n, 0⟩ = true ↔ digitCount n ≤ 10 ^ 18 := by
  have hzero : digitCount 0 = 1 := rfl
  unfold decimalInRange greatestExponent leastExponent
  rw [Bool.and_eq_true, decide_eq_true_iff, decide_eq_true_iff]
  dsimp only
  by_cases hn : n = 0
  · subst hn
    rw [if_pos rfl, hzero]
    decide
  · rw [if_neg hn]
    omega

open Number

namespace WholeNumeral

variable {t : WholeNumeral} {visit : Visit} {s : String}

lemma digitCount_magnitude_le : digitCount t.magnitude ≤ t.digits.length := by
  rw [digitCount_le_iff (List.length_pos_iff.mpr t.digits_ne)]
  exact digitsValue_lt t.isDigit

/-- Up to the greatest exact integer a numeral is read as the integer that it denotes. -/
lemma ofText_exact (hs : trim s.toList = t.chars) (hexact : t.magnitude < twoTo 53) :
    Number.ofText visit s = .ok (.int t.value) := by
  have hcount : digitCount t.magnitude ≤ 17 := by
    rw [digitCount_le_iff (by decide)]
    exact hexact.trans (by decide)
  obtain ⟨x, hx, hsign, hmagnitude⟩ := Binary64.ofDecimal_exact t.negative hexact
  obtain ⟨hinteger, htruncate⟩ := FiniteBinary.isInteger_of_magnitude hmagnitude
  unfold Number.ofText
  rw [WholeNumeral.readDecimal? hs, if_pos ((decimalInRange_iff _).mpr (by omega))]
  dsimp only
  rw [hx]
  dsimp only
  rw [if_pos hinteger, htruncate, hsign]
  rfl

/-- Above it the integer that is read is above it too, as long as there is a binary number. -/
lemma ofText_inexact (hs : trim s.toList = t.chars) (hlarge : twoTo 53 ≤ t.magnitude)
    (hfinite : t.magnitude < Binary64.leastInfinite) :
    ∃ n : ℤ, Number.ofText visit s = .ok (.int n) ∧ twoTo 53 ≤ n.natAbs := by
  have hcount : digitCount t.magnitude ≤ 400 := by
    have hbound : Binary64.leastInfinite ≤ tenTo 400 := by decide +kernel
    rw [digitCount_le_iff (by decide)]
    exact hfinite.trans_le hbound
  obtain ⟨x, hx⟩ : ∃ x, Binary64.ofRatio t.negative t.magnitude 1 = .finite x := by
    rw [Binary64.exists_ofRatio_iff _ Nat.one_pos, Nat.mul_one]
    exact hfinite
  have hle := Binary64.le_magnitude hx hlarge
  obtain ⟨k, hk⟩ := FiniteBinary.exists_natural hle
  obtain ⟨hinteger, htruncate⟩ := FiniteBinary.isInteger_of_magnitude hk
  refine ⟨x.truncate, ?_, ?_⟩
  · unfold Number.ofText
    rw [WholeNumeral.readDecimal? hs, if_pos ((decimalInRange_iff _).mpr (by omega))]
    dsimp only
    rw [Binary64.ofDecimal_natural, if_pos hcount, hx]
    dsimp only
    rw [if_pos hinteger]
  · rw [hk] at hle
    have hle' : twoTo 53 ≤ k := Nat.cast_le.mp hle
    rw [htruncate]
    split <;> omega

lemma ofText_infinite (hs : trim s.toList = t.chars) (hcount : digitCount t.magnitude ≤ 10 ^ 18)
    (hinfinite : Binary64.leastInfinite ≤ t.magnitude) :
    Number.ofText visit s = .ok (.float (.infinite t.negative)) := by
  unfold Number.ofText
  rw [WholeNumeral.readDecimal? hs, if_pos ((decimalInRange_iff _).mpr hcount)]
  dsimp only
  rw [(Binary64.ofDecimal_infinite_iff t.negative t.magnitude).mpr hinfinite]

lemma ofText_tooLong (hs : trim s.toList = t.chars) (hcount : 10 ^ 18 < digitCount t.magnitude) :
    Number.ofText visit s = visit.refuse .numberBase (.str s) [] := by
  unfold Number.ofText
  rw [WholeNumeral.readDecimal? hs, if_neg (mt (decimalInRange_iff _).mp (by omega))]

end WholeNumeral

lemma require_int {visit : Visit} (n : ℤ) : (Number.int n).require visit false =
    if |n| ≤ greatestExact then .ok (.int n)
    else visit.refuse .numberUnsafe (.number (.int n)) [] := by
  have hle : (Number.int n).abs.le (.int greatestExact) = true ↔ |n| ≤ greatestExact := by
    rw [abs_le_int (rational?_int n)]
    exact_mod_cast Iff.rfl
  unfold require
  dsimp only
  rw [Bool.false_or]
  by_cases hn : |n| ≤ greatestExact
  · rw [if_pos (hle.mpr hn), if_pos hn]
  · rw [if_neg (mt hle.mp hn), if_neg hn]

lemma toNumber_of_ofText {visit : Visit} (hconvert : visit.prefs.convert = true) {s : String}
    {x : Number} (h : Number.ofText visit s = .ok x) :
    (Value.str s).toNumber visit false = x.require visit false := by
  unfold Value.toNumber
  dsimp only
  rw [if_pos hconvert, h]
  rfl

lemma toNumber_of_refuse {visit : Visit} (hconvert : visit.prefs.convert = true) {s : String}
    {issue : Issue} {v : Value} (h : Number.ofText visit s = visit.refuse issue v []) :
    (Value.str s).toNumber visit false = visit.refuse issue v [] := by
  unfold Value.toNumber
  dsimp only
  rw [if_pos hconvert, h]
  rfl

namespace WholeNumeral

variable (t : WholeNumeral)

/-- What is said of a numeral beyond the greatest exact integer: that it is unsafe, or infinite
where it is beyond the binary numbers. -/
def issue : Issue :=
  if t.magnitude < Binary64.leastInfinite then .numberUnsafe
  else if digitCount t.magnitude ≤ 10 ^ 18 then .numberInfinity
  else .numberBase

variable {t} {s : String}

/-- A numeral is taken for the integer that it denotes, or refused. -/
theorem toNumber_eq (visit : Visit) (hconvert : visit.prefs.convert = true)
    (hs : trim s.toList = t.chars) :
    if |t.value| ≤ greatestExact then
      (Value.str s).toNumber visit false = .ok (.int t.value)
    else ∃ x, (Value.str s).toNumber visit false = visit.refuse t.issue x [] := by
  have hmagnitude : |t.value| = t.magnitude := by
    rw [Int.abs_eq_natAbs, natAbs_value]
  have hgreatest : greatestExact = twoTo 53 - 1 := rfl
  rw [hmagnitude]
  by_cases hexact : (t.magnitude : ℤ) ≤ greatestExact
  · rw [if_pos hexact, toNumber_of_ofText hconvert (ofText_exact hs (by omega)), require_int,
      if_pos (hmagnitude ▸ hexact)]
  · rw [if_neg hexact]
    unfold issue
    by_cases hfinite : t.magnitude < Binary64.leastInfinite
    · obtain ⟨n, hn, hlarge⟩ : ∃ n : ℤ, Number.ofText visit s = .ok (.int n) ∧
          twoTo 53 ≤ n.natAbs := ofText_inexact hs (by omega) hfinite
      have hbeyond : ¬|n| ≤ greatestExact := by
        rw [Int.abs_eq_natAbs]
        omega
      refine ⟨.number (.int n), ?_⟩
      rw [toNumber_of_ofText hconvert hn, require_int, if_neg hbeyond, if_pos hfinite]
    · rw [if_neg hfinite]
      by_cases hcount : digitCount t.magnitude ≤ 10 ^ 18
      · rw [if_pos hcount,
          toNumber_of_ofText hconvert (ofText_infinite hs hcount (not_lt.mp hfinite))]
        exact ⟨_, rfl⟩
      · rw [if_neg hcount, toNumber_of_refuse hconvert (ofText_tooLong hs (not_le.mp hcount))]
        exact ⟨_, rfl⟩

end WholeNumeral

namespace Schema

variable {store : Store} (visit : Visit) {rules : List NumberRule} {s : String}

lemma validate_number_str : (number .plain rules false).validate store visit (.str s) =
    ((Value.str s).toNumber visit false >>= fun x =>
      .number <$> rules.foldlM (fun x rule => rule.check visit x) x) := by
  have htext : Value.str s ≠ .null := nofun
  rw [validate_number htext, under_plain]
  rfl

/-- The rule for whole numbers passes an integer on. -/
lemma foldlM_check_int (hrules : rules = [] ∨ rules = [.integer]) (n : ℤ) :
    rules.foldlM (fun x rule => NumberRule.check visit x rule) (.int n) = .ok (.int n) := by
  rcases hrules with rfl | rfl <;> rfl

end Schema

/-- The text of a whole number is converted to the integer that it denotes, or to none: where the
integer is beyond the greatest exact one, it is refused as unsafe or as infinite. More than `10 ^ 18`
digits, which no exponent of a decimal covers, may be no number at all. The rule for whole numbers
makes no difference. -/
theorem attempt_wholeNumeral (store : Store) (env : Environment) {prefs : Preferences}
    (hconvert : prefs.convert = true) {rules : List NumberRule}
    (hrules : rules = [] ∨ rules = [.integer]) {s : String} {t : WholeNumeral}
    (hs : trim s.toList = t.chars) :
    if |t.value| ≤ 2 ^ 53 - 1 then
      attempt store prefs env (.number .plain rules false) (.str s) = .ok (.int t.value)
    else ∃ detail,
      attempt store prefs env (.number .plain rules false) (.str s) = .error (.issue detail) ∧
        (detail.code = "number.unsafe" ∨ detail.code = "number.infinity" ∨
          detail.code = "number.base" ∧ 10 ^ 18 < t.digits.length) := by
  have hread := WholeNumeral.toNumber_eq ⟨[], prefs, env⟩ hconvert hs
  have hgreatest : (2 ^ 53 - 1 : ℤ) = greatestExact := rfl
  rw [hgreatest, attempt, Schema.validate_number_str]
  split at hread
  · rename_i hexact
    have hrule := Schema.foldlM_check_int ⟨[], prefs, env⟩ hrules t.value
    rw [if_pos hexact]
    exact bind_eq_ok.mpr ⟨.int t.value, hread, map_eq_ok.mpr ⟨.int t.value, hrule, rfl⟩⟩
  · rename_i hexact
    obtain ⟨x, hx⟩ := hread
    rw [if_neg hexact, hx]
    refine ⟨Visit.detail ⟨[], prefs, env⟩ t.issue x [], rfl, ?_⟩
    unfold Visit.detail WholeNumeral.issue
    dsimp only
    split_ifs with hfinite hcount
    · exact Or.inl rfl
    · exact Or.inr (Or.inl rfl)
    · exact Or.inr (Or.inr ⟨rfl, (not_le.mp hcount).trans_le t.digitCount_magnitude_le⟩)

/-- A sign and sixteen digits, with blanks around them. -/
def greatestNumeral : WholeNumeral where
  sign := ['+']
  digits := "9007199254740991".toList
  sign_eq := by decide
  isDigit := List.all_eq_true.mp (by decide)
  digits_ne := by decide

theorem attempt_wholeNumeral_greatest :
    let prefs : Preferences := ⟨true, false⟩
    let env : Environment := .epoch
    prefs.convert = true ∧ trim " +9007199254740991\n".toList = greatestNumeral.chars ∧
      attempt .empty prefs env (.number .plain [.integer] false) (.str " +9007199254740991\n") =
        .ok (.int 9007199254740991) := by
  intro prefs env
  have hchars : trim " +9007199254740991\n".toList = greatestNumeral.chars := by decide
  have hvalue : greatestNumeral.value = 9007199254740991 := by decide
  have hconvert : prefs.convert = true := rfl
  have hread := attempt_wholeNumeral .empty env hconvert (Or.inr rfl) hchars
  rw [hvalue, if_pos (by decide)] at hread
  exact ⟨hconvert, hchars, hread⟩

end InputGuard

import InputGuard.Proofs.AcceptedTexts
import InputGuard.Proofs.TimestampTexts

/-!
# Check digits

The sum of a card number takes each digit as it is or doubled, in turn from the last one. Both are
one to one on the digits, and so is what a pair of neighbours adds to the sum, but for a nought and
a nine. So a card number with one wrong digit, or with two neighbours the wrong way round, is
refused, and all but the last digit settle the last one.
-/

namespace InputGuard

open Unicode

namespace Format

/-- What a digit adds to a sum. -/
def weight (double : Bool) (n : ℕ) : ℕ := if double then doubled n else n

variable {double : Bool} {m n : ℕ}

lemma luhnSum_cons (double : Bool) (n : ℕ) (rest : List ℕ) :
    luhnSum double (n :: rest) = weight double n + luhnSum (!double) rest := rfl

/-- The digits after others start with a doubled one or not, whatever they are. -/
lemma exists_luhnSum_append (double : Bool) (digits : List ℕ) : ∃ next, ∀ rest,
    luhnSum double (digits ++ rest) = luhnSum double digits + luhnSum next rest := by
  induction digits generalizing double with
  | nil =>
    refine ⟨double, fun rest => ?_⟩
    rw [List.nil_append, luhnSum, Nat.zero_add]
  | cons n digits ih =>
    obtain ⟨next, hnext⟩ := ih (!double)
    refine ⟨next, fun rest => ?_⟩
    rw [List.cons_append, luhnSum_cons, luhnSum_cons, hnext, Nat.add_assoc]

lemma weight_lt (double : Bool) (h : n < 10) : weight double n < 10 := by
  unfold weight doubled
  split_ifs <;> omega

lemma weight_pos (h : 0 < n) : 0 < weight double n := by
  unfold weight doubled
  split_ifs <;> omega

lemma weight_injective (hm : m < 10) (hn : n < 10) (h : weight double m = weight double n) :
    m = n := by
  unfold weight doubled at h
  split_ifs at h <;> omega

/-- Two neighbours that change places change the sum, but for a nought and a nine. -/
lemma weight_swap (double : Bool) (hm : m < 10) (hn : n < 10) (hne : m ≠ n) (hlow : ¬(m = 0 ∧ n = 9))
    (hhigh : ¬(m = 9 ∧ n = 0)) :
    (weight double m + weight (!double) n) % 10 ≠ (weight double n + weight (!double) m) % 10 := by
  cases double <;> simp only [weight, doubled, Bool.not_true, Bool.not_false, if_true,
    Bool.false_eq_true, if_false] <;> split_ifs <;> omega

lemma luhnSum_pos {digits : List ℕ} (h : ∃ n ∈ digits, 0 < n) : 0 < luhnSum double digits := by
  induction digits generalizing double with
  | nil =>
    obtain ⟨n, hn, -⟩ := h
    cases hn
  | cons first rest ih =>
    rw [luhnSum_cons]
    obtain ⟨n, hn, hpos⟩ := h
    rcases List.mem_cons.mp hn with rfl | hn
    · exact Nat.add_pos_left (weight_pos hpos) _
    · exact Nat.add_pos_right _ (ih ⟨n, hn, hpos⟩)

variable {before after : List ℕ}

lemma passesLuhn_iff {digits : List ℕ} : passesLuhn digits = true ↔
    0 < luhnSum false digits.reverse ∧ luhnSum false digits.reverse % 10 = 0 := by
  simp [passesLuhn]

/-- One digit cannot be replaced by another one. -/
lemma passesLuhn_of_replaced (h : passesLuhn (before ++ m :: after) = true) (hm : m < 10)
    (hn : n < 10) (hne : m ≠ n) : passesLuhn (before ++ n :: after) = false := by
  obtain ⟨double, hsum⟩ := exists_luhnSum_append false after.reverse
  have hreverse : ∀ k, (before ++ k :: after).reverse = after.reverse ++ k :: before.reverse := by
    simp
  have hweight : weight double m ≠ weight double n := mt (weight_injective hm hn) hne
  have hlt := weight_lt double hm
  have hlt' := weight_lt double hn
  obtain ⟨-, hmod⟩ := passesLuhn_iff.mp h
  rw [hreverse, hsum, luhnSum_cons] at hmod
  rw [← Bool.not_eq_true, passesLuhn_iff, hreverse, hsum, luhnSum_cons]
  omega

/-- Two neighbours cannot change places, unless they are a nought and a nine. -/
lemma passesLuhn_of_swapped (h : passesLuhn (before ++ m :: n :: after) = true) (hm : m < 10)
    (hn : n < 10) (hne : m ≠ n) (hlow : ¬(m = 0 ∧ n = 9)) (hhigh : ¬(m = 9 ∧ n = 0)) :
    passesLuhn (before ++ n :: m :: after) = false := by
  obtain ⟨double, hsum⟩ := exists_luhnSum_append false after.reverse
  have hreverse : ∀ k l, (before ++ k :: l :: after).reverse =
      after.reverse ++ l :: k :: before.reverse := by
    simp
  have hswap := weight_swap double hm hn hne hlow hhigh
  obtain ⟨-, hmod⟩ := passesLuhn_iff.mp h
  rw [hreverse, hsum, luhnSum_cons, luhnSum_cons, Bool.not_not] at hmod
  rw [← Bool.not_eq_true, passesLuhn_iff, hreverse, hsum, luhnSum_cons, luhnSum_cons, Bool.not_not]
  omega

/-- The last digit is what the sum of the others lacks to a multiple of ten. -/
lemma passesLuhn_append_iff {digits : List ℕ} (h : ∃ k ∈ digits, 0 < k) (hn : n < 10) :
    passesLuhn (digits ++ [n]) = true ↔ n = (10 - luhnSum true digits.reverse % 10) % 10 := by
  have hpos : 0 < luhnSum true digits.reverse := luhnSum_pos (by simpa using h)
  have hreverse : (digits ++ [n]).reverse = n :: digits.reverse := by simp
  have hsum : luhnSum false (n :: digits.reverse) = n + luhnSum true digits.reverse := rfl
  rw [passesLuhn_iff, hreverse, hsum]
  omega

end Format

open Format StringRule

section CardNumbers

/-- The digit that a character of the basic Latin block stands for. -/
def digitOf (c : Char) : ℕ := c.toNat - 48

variable {store : Store} {prefs : Preferences} {env : Environment}
  {cs before after : List Char} {c d : Char}

lemma digitOf_lt (h : c.isDigit = true) : digitOf c < 10 := by
  have hhigh := (isDigit_iff.mp h).2
  unfold digitOf
  omega

lemma digitOf_injective (hc : c.isDigit = true) (hd : d.isDigit = true)
    (h : digitOf c = digitOf d) : c = d := by
  have hlow := (isDigit_iff.mp hc).1
  have hlow' := (isDigit_iff.mp hd).1
  unfold digitOf at h
  exact Char.toNat_inj.mp (by omega)

lemma isCardNumber_digits (h : IsDigits cs) :
    isCardNumber cs = .ok (passesLuhn (cs.map digitOf)) := by
  cases cs with
  | nil => rfl
  | cons c rest =>
    have hdigits : (c :: rest).all Unicode.isDigit = true := by
      refine List.all_eq_true.mpr fun d hd => ?_
      rw [Unicode.isDigit, isDecimal_of_isDigit (h d hd), Bool.true_or]
    have hvalues : (c :: rest).mapM decimalValue? = some ((c :: rest).map digitOf) :=
      mapM_eq_map fun d hd => decimalValue?_of_isDigit (h d hd)
    rw [isCardNumber, hdigits, hvalues]
    rfl

/-- Of digits, those are accepted that pass the sum, and the others are refused. -/
lemma creditCard_acceptsJust (h : IsDigits cs) :
    creditCard.AcceptsJust store prefs env cs "string.creditCard"
      (passesLuhn (cs.map digitOf) = true) := by
  refine acceptsJust_of_require .stringCreditCard (passesLuhn (cs.map digitOf)) ?_ Iff.rfl
  rw [check, String.toList_ofList, isCardNumber_digits h]
  rfl

lemma digitOf_pos (hc : c.isDigit = true) (hne : c ≠ '0') : 0 < digitOf c :=
  Nat.pos_of_ne_zero fun hzero => hne (digitOf_injective hc (by decide) hzero)

/-- Each of the ten values belongs to a digit. -/
lemma exists_digit {n : ℕ} (hn : n < 10) : ∃ c : Char, c.isDigit = true ∧ digitOf c = n := by
  have hdigits : ∀ n : Fin 10, (Char.ofNat (48 + n)).isDigit = true ∧
      digitOf (Char.ofNat (48 + n)) = n := by decide
  exact ⟨_, hdigits ⟨n, hn⟩⟩

lemma refuses_of_replaced (h : IsDigits (before ++ c :: after)) (hd : d.isDigit = true)
    (hne : c ≠ d) (haccepts : creditCard.Accepts store prefs env (before ++ c :: after)) :
    creditCard.Refuses store prefs env (before ++ d :: after) "string.creditCard" := by
  obtain ⟨hbefore, hrest⟩ := isDigits_append.mp h
  obtain ⟨hc, hafter⟩ := isDigits_cons.mp hrest
  have hreplaced := isDigits_append.mpr ⟨hbefore, isDigits_cons.mpr ⟨hd, hafter⟩⟩
  rw [(creditCard_acceptsJust h).accepts, List.map_append, List.map_cons] at haccepts
  rw [(creditCard_acceptsJust hreplaced).refuses, Bool.not_eq_true, List.map_append, List.map_cons]
  exact passesLuhn_of_replaced haccepts (digitOf_lt hc) (digitOf_lt hd)
    (mt (digitOf_injective hc hd) hne)

lemma refuses_of_swapped (h : IsDigits (before ++ c :: d :: after)) (hne : c ≠ d)
    (hlow : ¬(c = '0' ∧ d = '9')) (hhigh : ¬(c = '9' ∧ d = '0'))
    (haccepts : creditCard.Accepts store prefs env (before ++ c :: d :: after)) :
    creditCard.Refuses store prefs env (before ++ d :: c :: after) "string.creditCard" := by
  obtain ⟨hbefore, hrest⟩ := isDigits_append.mp h
  obtain ⟨hc, hrest⟩ := isDigits_cons.mp hrest
  obtain ⟨hd, hafter⟩ := isDigits_cons.mp hrest
  have hswapped := isDigits_append.mpr
    ⟨hbefore, isDigits_cons.mpr ⟨hd, isDigits_cons.mpr ⟨hc, hafter⟩⟩⟩
  have hlow' : ¬(digitOf c = 0 ∧ digitOf d = 9) := fun ⟨hc', hd'⟩ =>
    hlow ⟨digitOf_injective hc (by decide) hc', digitOf_injective hd (by decide) hd'⟩
  have hhigh' : ¬(digitOf c = 9 ∧ digitOf d = 0) := fun ⟨hc', hd'⟩ =>
    hhigh ⟨digitOf_injective hc (by decide) hc', digitOf_injective hd (by decide) hd'⟩
  rw [(creditCard_acceptsJust h).accepts, List.map_append, List.map_cons, List.map_cons] at haccepts
  rw [(creditCard_acceptsJust hswapped).refuses, Bool.not_eq_true, List.map_append, List.map_cons,
    List.map_cons]
  exact passesLuhn_of_swapped haccepts (digitOf_lt hc) (digitOf_lt hd)
    (mt (digitOf_injective hc hd) hne) hlow' hhigh'

lemma existsUnique_accepts (h : IsDigits cs) (hnonzero : ∃ c ∈ cs, c ≠ '0') :
    ∃! c : Char, c.isDigit = true ∧ creditCard.Accepts store prefs env (cs ++ [c]) := by
  have hpositive : ∃ n ∈ cs.map digitOf, 0 < n := by
    obtain ⟨c, hc, hne⟩ := hnonzero
    exact ⟨digitOf c, List.mem_map_of_mem hc, digitOf_pos (h c hc) hne⟩
  set check := (10 - luhnSum true (cs.map digitOf).reverse % 10) % 10 with hcheck
  have haccepts : ∀ c : Char, c.isDigit = true →
      (creditCard.Accepts store prefs env (cs ++ [c]) ↔ digitOf c = check) := by
    intro c hc
    have hdigits := isDigits_append.mpr ⟨h, isDigits_cons.mpr ⟨hc, isDigits_nil⟩⟩
    rw [(creditCard_acceptsJust hdigits).accepts, List.map_append, List.map_singleton,
      passesLuhn_append_iff hpositive (digitOf_lt hc)]
  obtain ⟨c, hc, hvalue⟩ := exists_digit (n := check) (Nat.mod_lt _ (by decide))
  refine ⟨c, ⟨hc, (haccepts c hc).mpr hvalue⟩, fun d ⟨hd, hother⟩ => ?_⟩
  exact digitOf_injective hd hc (((haccepts d hd).mp hother).trans hvalue.symm)

end CardNumbers

/-- One wrong digit is refused, and so are two neighbours that have changed places, but for a
nought and a nine. Digits that are not all noughts are accepted with one more digit and no other. -/
theorem cardNumber_detects (store : Store) (prefs : Preferences) (env : Environment) :
    let accepts (cs : List Char) := creditCard.Accepts store prefs env cs
    let refuses (cs : List Char) := creditCard.Refuses store prefs env cs "string.creditCard"
    creditCard.AddedBy "credit_card" [] ∧
    (∀ (before after : List Char) (c d : Char), IsDigits (before ++ c :: after) →
      d.isDigit = true → c ≠ d → accepts (before ++ c :: after) → refuses (before ++ d :: after)) ∧
    (∀ (before after : List Char) (c d : Char), IsDigits (before ++ c :: d :: after) →
      c ≠ d → ¬(c = '0' ∧ d = '9') → ¬(c = '9' ∧ d = '0') →
      accepts (before ++ c :: d :: after) → refuses (before ++ d :: c :: after)) ∧
    ∀ cs : List Char, IsDigits cs → (∃ c ∈ cs, c ≠ '0') →
      ∃! c : Char, c.isDigit = true ∧ accepts (cs ++ [c]) :=
  ⟨fun _ _ => rfl, fun _ _ _ _ h hd hne haccepts => refuses_of_replaced h hd hne haccepts,
    fun _ _ _ _ h hne hlow hhigh haccepts => refuses_of_swapped h hne hlow hhigh haccepts,
    fun _ h hnonzero => existsUnique_accepts h hnonzero⟩

theorem cardNumber_detects_ones :
    let prefs : Preferences := ⟨true, false⟩
    let env : Environment := .epoch
    let accepts (cs : List Char) := creditCard.Accepts .empty prefs env cs
    let refuses (cs : List Char) := creditCard.Refuses .empty prefs env cs "string.creditCard"
    accepts "4111111111111111".toList ∧ refuses "4111111111111112".toList ∧
      refuses "1411111111111111".toList ∧
      ∃! c : Char, c.isDigit = true ∧ accepts ("411111111111111".toList ++ [c]) := by
  intro prefs env accepts refuses
  obtain ⟨-, hreplaced, hswapped, hlast⟩ := cardNumber_detects .empty prefs env
  have hdigits : IsDigits "4111111111111111".toList := by decide
  have haccepts : accepts "4111111111111111".toList :=
    (creditCard_acceptsJust hdigits).accepts.mpr (by decide)
  refine ⟨haccepts, ?_, ?_, ?_⟩
  · exact hreplaced "411111111111111".toList [] '1' '2' hdigits (by decide) (by decide) haccepts
  · exact hswapped [] "11111111111111".toList '4' '1' hdigits (by decide) (by decide) (by decide)
      haccepts
  · exact hlast "411111111111111".toList (by decide) ⟨'4', by decide, by decide⟩

end InputGuard

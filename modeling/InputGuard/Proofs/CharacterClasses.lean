import InputGuard.Proofs.AcceptedTexts

/-!
# Classes of characters

The rules for letters and digits, for tokens and for hexadecimal digits accept the texts of one
character or more of their class, as their patterns do. Like these they let a line feed follow. It
counts for the alignment of hexadecimal digits to bytes, so that only without it aligned texts are
those of an even number of digits.
-/

namespace InputGuard

namespace Format

/-- One character or more, all of a class. -/
def ConsistsOf (p : Char → Bool) (s : List Char) : Prop := s ≠ [] ∧ ∀ c ∈ s, p c = true

variable {p : Char → Bool} {s : List Char}

lemma isRunOf_iff : isRunOf p s = true ↔ ConsistsOf p (dropFinalLineFeed s) := by
  unfold isRunOf ConsistsOf
  rw [Bool.and_eq_true, List.all_eq_true, Bool.not_eq_true', List.isEmpty_eq_false_iff]

lemma ConsistsOf.notMem (h : ConsistsOf p s) {c : Char} (hc : p c = false) : c ∉ s := by
  intro hmem
  rw [h.2 c hmem] at hc
  cases hc

/-- A pattern for one character or more out of a set. -/
def runPattern (source : String) (flags : PatternFlags) (items : List Pattern.SetItem) : Pattern :=
  ⟨source, flags, .sequence (.anchor .textStart)
    (.sequence (.repeated .greedy 1 none (.single ⟨false, flags.ascii⟩ (.set false items)))
      (.anchor .finalEnd))⟩

lemma spells_run {ascii : Bool} {items : List Pattern.SetItem}
    (hitems : ∀ c, items.any (·.plainHolds ascii c) = p c) :
    Pattern.Spells (.repeated .greedy 1 none (.single ⟨false, ascii⟩ (.set false items)))
      (ConsistsOf p) := by
  refine (Pattern.Spells.run _ _ _).congr fun w => ?_
  simp only [Pattern.holds_set, hitems]
  unfold ConsistsOf
  rw [← List.length_pos_iff]
  exact and_congr_right fun _ => and_iff_right nofun

/-- One character or more out of a set, with regard to case. -/
def setRun (items : List Pattern.SetItem) : Pattern.Node :=
  .repeated .greedy 1 none (.single Pattern.plainly (.set false items))

/-- The members of a set of the letters and digits of basic Latin and some other characters. -/
def alphanumItems (others : List Char) : List Pattern.SetItem :=
  [.range 65 90, .range 97 122, .range 48 57] ++ others.map (.code ·.toNat)

lemma alphanumItems_holds (others : List Char) (c : Char) :
    (alphanumItems others).any (·.plainHolds false c) = (c.isAlphanum || others.contains c) := by
  have halphanum : [Pattern.SetItem.range 65 90, .range 97 122, .range 48 57].any
      (·.plainHolds false c) = c.isAlphanum := by
    rw [Bool.eq_iff_iff, isAlphanum_iff]
    simp [Pattern.SetItem.plainHolds, or_left_comm, or_assoc]
  have hothers : (others.map (Pattern.SetItem.code ·.toNat)).any (·.plainHolds false c) =
      others.contains c := by
    rw [Bool.eq_iff_iff, List.contains_iff_mem]
    simp [Pattern.SetItem.plainHolds, ← eq_iff_toNat]
  rw [alphanumItems, List.any_append, halphanum, hothers]

/-- A search for characters of a set finds the runs of its characters. -/
lemma search_runPattern {source : String} {flags : PatternFlags} {items : List Pattern.SetItem}
    (hitems : ∀ c, items.any (·.plainHolds flags.ascii c) = p c) (hp : p '\n' = false) :
    (runPattern source flags items).search (String.ofList s) = isRunOf p s := by
  rw [Bool.eq_iff_iff, isRunOf_iff]
  exact (spells_run hitems).search_iff (fun _ hw => hw.notMem hp) rfl fun _ => Iff.rfl

def alphanumericPattern : Pattern :=
  runPattern "^[a-zA-Z0-9]+$" .none [.range 97 122, .range 65 90, .range 48 57]

def hexPattern : Pattern :=
  runPattern "^[a-fA-F0-9]+$" .none [.range 97 102, .range 65 70, .range 48 57]

def tokenPattern : Pattern :=
  runPattern "^\\w+$" { PatternFlags.none with ascii := true } [.cls false .word]

lemma read_alphanumericPattern :
    Pattern.read alphanumericPattern.source .none = .ok alphanumericPattern := by
  decide +kernel

lemma read_hexPattern : Pattern.read hexPattern.source .none = .ok hexPattern := by
  decide +kernel

lemma read_tokenPattern :
    Pattern.read tokenPattern.source tokenPattern.flags = .ok tokenPattern := by
  decide +kernel

lemma isHexDigit_iff {c : Char} : isHexDigit c = true ↔
    (48 ≤ c.toNat ∧ c.toNat ≤ 57 ∨ 97 ≤ c.toNat ∧ c.toNat ≤ 102) ∨
      65 ≤ c.toNat ∧ c.toNat ≤ 70 := by
  unfold isHexDigit
  simp only [Bool.or_eq_true, Bool.and_eq_true, decide_eq_true_iff, isDigit_iff]
  exact Iff.rfl

theorem isAlphanumeric_eq_search (s : List Char) :
    isAlphanumeric s = alphanumericPattern.search (String.ofList s) := by
  refine (search_runPattern (fun c => ?_) (by decide)).symm
  rw [Bool.eq_iff_iff, isAlphanum_iff]
  simp [Pattern.SetItem.plainHolds, or_assoc]

theorem isHex_eq_search (s : List Char) : isHex s = hexPattern.search (String.ofList s) := by
  refine (search_runPattern (fun c => ?_) (by decide)).symm
  rw [Bool.eq_iff_iff, isHexDigit_iff]
  simp [Pattern.SetItem.plainHolds, or_assoc, or_comm, or_left_comm]

theorem isToken_eq_search (s : List Char) : isToken s = tokenPattern.search (String.ofList s) := by
  refine (search_runPattern (fun c => ?_) (by decide)).symm
  simp [Pattern.SetItem.plainHolds]
  rfl

/-- Hexadecimal digits with a nought before them if their number is odd. -/
def aligned (s : List Char) : List Char := if s.length % 2 = 1 then '0' :: s else s

lemma even_length_aligned (s : List Char) : Even (aligned s).length := by
  rw [Nat.even_iff]
  unfold aligned
  split
  · rw [List.length_cons]
    omega
  · omega

lemma dropFinalLineFeed_cons {c : Char} (hc : c ≠ '\n') (s : List Char) :
    dropFinalLineFeed (c :: s) = c :: dropFinalLineFeed s :=
  dropFinalLineFeed.eq_3 c s fun h _ => hc h

lemma dropFinalLineFeed_aligned (s : List Char) : dropFinalLineFeed (aligned s) =
    if s.length % 2 = 1 then '0' :: dropFinalLineFeed s else dropFinalLineFeed s := by
  unfold aligned
  split
  · exact dropFinalLineFeed_cons (by decide) s
  · rfl

/-- A nought before digits does not change their value. -/
lemma readBase_cons_zero (digits : List Char) :
    Pattern.readBase 16 ('0' :: digits) = Pattern.readBase 16 digits := rfl

lemma ConsistsOf.aligned (h : ConsistsOf isHexDigit (dropFinalLineFeed s)) :
    ConsistsOf isHexDigit (dropFinalLineFeed (aligned s)) := by
  rw [dropFinalLineFeed_aligned]
  split
  · exact ⟨List.cons_ne_nil _ _, List.forall_mem_cons.mpr ⟨by decide, h.2⟩⟩
  · exact h

lemma readBase_aligned (s : List Char) : Pattern.readBase 16 (dropFinalLineFeed (aligned s)) =
    Pattern.readBase 16 (dropFinalLineFeed s) := by
  rw [dropFinalLineFeed_aligned]
  split
  · exact readBase_cons_zero _
  · rfl

end Format

namespace StringRule

open Format

variable {store : Store} {prefs : Preferences} {env : Environment} {s r : List Char}

lemma characterClasses_addedBy :
    alphanum.AddedBy "alphanum" [] ∧ token.AddedBy "token" [] ∧ (hex false).AddedBy "hex" [] ∧
      ∀ options, (hex (Value.option "byte_aligned" options).truthy).AddedBy "hex"
        [.object options] :=
  ⟨fun _ _ => rfl, fun _ _ => rfl, fun _ _ => rfl, fun _ _ _ => rfl⟩

lemma alphanum_acceptsJust : alphanum.AcceptsJust store prefs env s "string.alphanum"
    (ConsistsOf Char.isAlphanum (dropFinalLineFeed s)) := by
  refine acceptsJust_of_require .stringAlphanum (isAlphanumeric s) ?_
    isRunOf_iff
  rw [check, String.toList_ofList]

lemma token_acceptsJust : token.AcceptsJust store prefs env s "string.token"
    (ConsistsOf isTokenChar (dropFinalLineFeed s)) := by
  refine acceptsJust_of_require .stringToken (isToken s) ?_ isRunOf_iff
  rw [check, String.toList_ofList]

lemma hex_acceptsJust : (hex false).AcceptsJust store prefs env s "string.hex"
    (ConsistsOf isHexDigit (dropFinalLineFeed s)) := by
  refine acceptsJust_of_require .stringHex (isHex s) ?_ isRunOf_iff
  rw [check, checkHex, String.toList_ofList]
  cases isHex s <;> rfl

/-- What the rule for aligned digits makes of hexadecimal digits. -/
lemma check_hex_true (hhex : isHex s = true) :
    (hex true).check ⟨[], prefs, env⟩ (String.ofList s) =
      if s.length % 2 = 1 ∧ prefs.convert = false then
        Visit.refuse ⟨[], prefs, env⟩ .stringHexAlign (.str (String.ofList s)) []
      else .ok (String.ofList (aligned s)) := by
  have hzero : "0" ++ String.ofList s = String.ofList ('0' :: s) :=
    (String.ofList_append : String.ofList (['0'] ++ s) = _).symm
  rw [check, checkHex, String.toList_ofList, String.length_ofList, hhex, aligned]
  by_cases hodd : s.length % 2 = 1
  · cases prefs.convert <;> simp only [hodd, hzero, decide_true, Bool.and_self, Bool.not_true,
      reduceCtorEq, and_self, and_false, if_true, if_false]
  · simp only [hodd, decide_false, Bool.and_false, Bool.not_true, Bool.false_eq_true, if_false,
      false_and]

lemma check_hex_of_not (byteAligned : Bool) (hhex : ¬ConsistsOf isHexDigit (dropFinalLineFeed s)) :
    (hex byteAligned).check ⟨[], prefs, env⟩ (String.ofList s) =
      Visit.refuse ⟨[], prefs, env⟩ .stringHex (.str (String.ofList s)) [] := by
  rw [← isRunOf_iff, Bool.not_eq_true] at hhex
  rw [check, checkHex, String.toList_ofList, isHex, hhex]
  rfl

/-- Without conversion, digits that are not aligned are refused. -/
lemma alignedHex_accepts_iff (hprefs : prefs.convert = false) :
    (hex true).Accepts store prefs env s ↔
      ConsistsOf isHexDigit (dropFinalLineFeed s) ∧ Even s.length := by
  rw [Accepts, gives_iff]
  by_cases hhex : ConsistsOf isHexDigit (dropFinalLineFeed s)
  · rw [check_hex_true (isRunOf_iff.mpr hhex), Nat.even_iff]
    by_cases hodd : s.length % 2 = 1
    · rw [if_pos ⟨hodd, hprefs⟩]
      exact iff_of_false (by rintro ⟨⟩) fun h => by omega
    · rw [if_neg fun h => hodd h.1, aligned, if_neg hodd]
      exact iff_of_true rfl ⟨hhex, by omega⟩
  · rw [check_hex_of_not true hhex]
    exact iff_of_false (by rintro ⟨⟩) fun h => hhex h.1

/-- With conversion, they are aligned. -/
lemma alignedHex_gives_iff (hprefs : prefs.convert = true) :
    (hex true).Gives store prefs env s r ↔
      ConsistsOf isHexDigit (dropFinalLineFeed s) ∧ r = aligned s := by
  rw [gives_iff]
  by_cases hhex : ConsistsOf isHexDigit (dropFinalLineFeed s)
  · rw [check_hex_true (isRunOf_iff.mpr hhex), if_neg (by simp [hprefs])]
    rw [Except.ok.injEq, String.ofList_inj, and_iff_right hhex]
    exact eq_comm
  · rw [check_hex_of_not true hhex]
    exact iff_of_false (by rintro ⟨⟩) fun h => hhex h.1

end StringRule

open Format StringRule

/-- The rules for letters and digits, for tokens and for hexadecimal digits accept the texts of
their classes, of which a final line feed is no part. Without conversion the rule for aligned digits
accepts hexadecimal digits of an even length; with conversion it gives digits of an even length and
the same value. The final line feed counts for the length, so that the length is the number of
digits if there is none. -/
theorem characterClasses_accept (store : Store) (prefs : Preferences) (env : Environment)
    (s : List Char) :
    let t := dropFinalLineFeed s
    (alphanum.AddedBy "alphanum" [] ∧ token.AddedBy "token" [] ∧ (hex false).AddedBy "hex" [] ∧
      ∀ options, (hex (Value.option "byte_aligned" options).truthy).AddedBy "hex"
        [.object options]) ∧
    (s.getLast? ≠ some '\n' → t = s) ∧
    alphanum.AcceptsJust store prefs env s "string.alphanum" (ConsistsOf Char.isAlphanum t) ∧
    token.AcceptsJust store prefs env s "string.token" (ConsistsOf isTokenChar t) ∧
    (hex false).AcceptsJust store prefs env s "string.hex" (ConsistsOf isHexDigit t) ∧
    (prefs.convert = false →
      ((hex true).Accepts store prefs env s ↔ ConsistsOf isHexDigit t ∧ Even s.length)) ∧
    (prefs.convert = true → (ConsistsOf isHexDigit t ↔ ∃ r, (hex true).Gives store prefs env s r) ∧
      ∀ r, (hex true).Gives store prefs env s r →
        (s.getLast? ≠ some '\n' → dropFinalLineFeed r = r) ∧
        ConsistsOf isHexDigit (dropFinalLineFeed r) ∧ Even r.length ∧
        Pattern.readBase 16 (dropFinalLineFeed r) = Pattern.readBase 16 t) := by
  intro t
  refine ⟨characterClasses_addedBy, dropFinalLineFeed_of_ne, alphanum_acceptsJust,
    token_acceptsJust, hex_acceptsJust, fun hprefs => alignedHex_accepts_iff hprefs,
    fun hprefs => ⟨?_, fun r hr => ?_⟩⟩
  · simp only [alignedHex_gives_iff hprefs, exists_and_left, exists_eq, and_true]
    exact Iff.rfl
  · obtain ⟨hhex, rfl⟩ := (alignedHex_gives_iff hprefs).mp hr
    refine ⟨fun hlast => ?_, hhex.aligned, even_length_aligned s, readBase_aligned s⟩
    rw [dropFinalLineFeed_aligned, dropFinalLineFeed_of_ne hlast]
    rfl

theorem characterClasses_accept_abc :
    let prefs : Preferences := ⟨true, false⟩
    let env : Environment := .epoch
    "abc".toList.getLast? ≠ some '\n' ∧ prefs.convert = true ∧
      alphanum.Accepts .empty prefs env "abc".toList ∧
      ∃ r, (hex true).Gives .empty prefs env "abc".toList r ∧ ConsistsOf isHexDigit r ∧
        Even r.length ∧ Pattern.readBase 16 r = 0xABC := by
  intro prefs env
  have hlast : "abc".toList.getLast? ≠ some '\n' := by decide
  have hletters : ∀ c ∈ "abc".toList, c.isAlphanum = true := List.all_eq_true.mp (by decide)
  have hdigits : ∀ c ∈ "abc".toList, isHexDigit c = true := List.all_eq_true.mp (by decide)
  have hne : "abc".toList ≠ [] := by decide
  obtain ⟨-, hline, hclass, -, -, -, haligned⟩ :=
    characterClasses_accept .empty prefs env "abc".toList
  rw [hline hlast] at hclass haligned
  obtain ⟨hgiven, heach⟩ := haligned rfl
  obtain ⟨r, hr⟩ := hgiven.mp ⟨hne, hdigits⟩
  obtain ⟨hbare, hhex, heven, hvalue⟩ := heach r hr
  rw [hbare hlast] at hhex hvalue
  exact ⟨hlast, rfl, hclass.accepts.mpr ⟨hne, hletters⟩, r, hr, hhex, heven, hvalue⟩

/-- A letter and a line feed are no text of letters and digits. -/
theorem not_characterClasses_accept :
    ¬∀ (store : Store) (prefs : Preferences) (env : Environment) (s : List Char),
      (alphanum.Accepts store prefs env s ↔ ConsistsOf Char.isAlphanum s) ∧
      (token.Accepts store prefs env s ↔ ConsistsOf isTokenChar s) ∧
      ((hex false).Accepts store prefs env s ↔ ConsistsOf isHexDigit s) ∧
      (prefs.convert = false →
        ((hex true).Accepts store prefs env s ↔ ConsistsOf isHexDigit s ∧ Even s.length)) ∧
      (prefs.convert = true → ConsistsOf isHexDigit s → ∃ r, (hex true).Gives store prefs env s r ∧
        ConsistsOf isHexDigit r ∧ Even r.length ∧
          Pattern.readBase 16 r = Pattern.readBase 16 s) := by
  intro hexact
  obtain ⟨halphanum, -⟩ :=
    hexact .empty ⟨false, false⟩ .epoch ['a', '\n']
  have haccepted : ConsistsOf Char.isAlphanum (dropFinalLineFeed ['a', '\n']) :=
    ⟨by decide, List.all_eq_true.mp (by decide)⟩
  obtain ⟨-, hall⟩ := halphanum.mp (alphanum_acceptsJust.accepts.mpr haccepted)
  exact absurd (hall '\n' (by decide)) (by decide)

end InputGuard

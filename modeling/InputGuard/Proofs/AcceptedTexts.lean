import InputGuard.Proofs.Digits
import InputGuard.Proofs.PatternLanguages
import InputGuard.Proofs.ReachedRules

/-!
# Accepted texts

What a rule for texts makes of a text on its own, and what the formats have in common: most of them
let a line feed follow the text proper, whose characters belong to a class. A pattern that ends with
the end of the text lets the same line feed follow.
-/

namespace InputGuard

namespace StringRule

section Rules

variable (store : Store) (prefs : Preferences) (env : Environment) (rule : StringRule)
  (s t : List Char)

/-- The rule is what an operation adds to a schema for texts. -/
def AddedBy (operation : String) (args : List Value) : Prop :=
  ∀ settings rules, (Schema.string settings rules).refine operation args =
    .ok (some (.string settings (rules ++ [rule])))

/-- The rule makes one text of another. -/
def Gives : Prop :=
  attempt store prefs env (.string .plain [rule]) (.str (String.ofList s)) =
    .ok (.str (String.ofList t))

/-- The rule passes a text on as it is. -/
def Accepts : Prop := rule.Gives store prefs env s s

/-- The rule refuses a text with an issue of that code. -/
def Refuses (code : String) : Prop :=
  ∃ detail, attempt store prefs env (.string .plain [rule]) (.str (String.ofList s)) =
    .error (.issue detail) ∧ detail.code = code

end Rules

variable {store : Store} {prefs : Preferences} {env : Environment} {rule : StringRule}
  {s t : List Char}
  {issue : Issue} {holds : Bool}

lemma gives_iff : rule.Gives store prefs env s t ↔
    rule.check ⟨[], prefs, env⟩ (String.ofList s) = .ok (String.ofList t) := by
  unfold Gives
  rw [attempt_textRule]
  cases rule.check ⟨[], prefs, env⟩ (String.ofList s) with
  | error e => exact iff_of_false nofun nofun
  | ok u =>
    constructor
    · intro h
      rw [Value.str.inj (Except.ok.inj h)]
    · intro h
      rw [Except.ok.inj h]
      rfl

lemma refuses_of_check {particulars : Entries} (h : rule.check ⟨[], prefs, env⟩ (String.ofList s) =
    Visit.refuse ⟨[], prefs, env⟩ issue (.str (String.ofList s)) particulars) :
    rule.Refuses store prefs env s issue.code := by
  unfold Refuses
  rw [attempt_textRule, h]
  exact ⟨_, rfl, rfl⟩

lemma accepts_iff (h : rule.check ⟨[], prefs, env⟩ (String.ofList s) =
    require ⟨[], prefs, env⟩ issue (String.ofList s) holds) :
    rule.Accepts store prefs env s ↔ holds = true := by
  rw [Accepts, gives_iff, h]
  cases holds with
  | false => exact iff_of_false nofun nofun
  | true => exact iff_of_true rfl rfl

lemma not_refuses_of_gives {code : String} (h : rule.Gives store prefs env s t) :
    ¬rule.Refuses store prefs env s code := by
  rintro ⟨detail, hrefused, -⟩
  cases h.symm.trans hrefused

/-- The texts with a property are accepted, and all others refused with an issue of that code. -/
structure AcceptsJust (store : Store) (prefs : Preferences) (env : Environment) (rule : StringRule)
    (s : List Char) (code : String) (holds : Prop) : Prop where
  accepts : rule.Accepts store prefs env s ↔ holds
  refuses : rule.Refuses store prefs env s code ↔ ¬holds

lemma acceptsJust_of_require (issue : Issue) (holds : Bool) {P : Prop}
    (h : rule.check ⟨[], prefs, env⟩ (String.ofList s) =
      require ⟨[], prefs, env⟩ issue (String.ofList s) holds) (hP : holds = true ↔ P) :
    rule.AcceptsJust store prefs env s issue.code P := by
  have haccepts : rule.Accepts store prefs env s ↔ P := (accepts_iff h).trans hP
  refine ⟨haccepts, fun hrefuses hp => ?_, fun hp => ?_⟩
  · exact not_refuses_of_gives (haccepts.mpr hp) hrefuses
  · rw [← hP, Bool.not_eq_true] at hp
    subst hp
    exact refuses_of_check h

end StringRule

variable {s t : List Char}

lemma dropFinalLineFeed_append (s : List Char) : dropFinalLineFeed (s ++ ['\n']) = s := by
  induction s with
  | nil => rfl
  | cons c s ih =>
    have hne : s ++ ['\n'] ≠ [] := List.append_ne_nil_of_right_ne_nil s (List.cons_ne_nil _ _)
    rw [List.cons_append, dropFinalLineFeed.eq_3 _ _ fun _ => hne, ih]

lemma dropFinalLineFeed_of_ne (h : s.getLast? ≠ some '\n') : dropFinalLineFeed s = s := by
  induction s using dropFinalLineFeed.induct with
  | case1 => rfl
  | case2 => exact absurd rfl h
  | case3 c rest hne ih =>
    rw [dropFinalLineFeed.eq_3 c rest hne]
    cases rest with
    | nil => rfl
    | cons d more => rw [ih (by simpa using h)]

/-- Either there is no final line feed, or the text is followed by it. -/
lemma eq_dropFinalLineFeed_or (s : List Char) :
    s = dropFinalLineFeed s ∨ s = dropFinalLineFeed s ++ ['\n'] := by
  by_cases h : s.getLast? = some '\n'
  · obtain ⟨t, rfl⟩ := List.getLast?_eq_some_iff.mp h
    exact Or.inr (by rw [dropFinalLineFeed_append])
  · exact Or.inl (dropFinalLineFeed_of_ne h).symm

lemma getLast?_ne_lineFeed (h : '\n' ∉ s) : s.getLast? ≠ some '\n' :=
  fun hlast => h (List.mem_of_getLast? hlast)

/-- A text of a language without line feeds, and perhaps one after it. -/
lemma exists_line_iff {L : List Char → Prop} (hL : ∀ w, L w → '\n' ∉ w) :
    (∃ w rest, s = w ++ rest ∧ (rest = [] ∨ rest = ['\n']) ∧ L w) ↔ L (dropFinalLineFeed s) := by
  constructor
  · rintro ⟨w, _, rfl, rfl | rfl, hw⟩
    · rwa [List.append_nil, dropFinalLineFeed_of_ne (getLast?_ne_lineFeed (hL w hw))]
    · rwa [dropFinalLineFeed_append]
  · intro h
    rcases eq_dropFinalLineFeed_or s with heq | heq
    · exact ⟨_, [], by rw [List.append_nil, ← heq], Or.inl rfl, h⟩
    · exact ⟨_, _, heq, Or.inr rfl, h⟩

/-- A pattern that spells a language without line feeds from the start of the text to its end finds
the texts that are of the language but for a final line feed. -/
lemma Pattern.Spells.search_iff {p : Pattern} {n : Pattern.Node} {L : List Char → Prop}
    (h : Pattern.Spells n L) (hL : ∀ w, L w → '\n' ∉ w) (hp : p.node.isAnchored = true)
    (hreads : ∀ q, p.node.ReadsFromStart ⟨s, []⟩ q ↔
      (Pattern.Node.sequence n (.anchor .finalEnd)).Reads ⟨s, []⟩ q) :
    p.search (String.ofList s) = true ↔ L (dropFinalLineFeed s) := by
  rw [Pattern.search_iff hp, ← exists_line_iff hL, ← h.exists_end_iff]
  exact exists_congr hreads

/-- The same, where what is spelled may depend on the end of the text that follows it. -/
lemma Pattern.SpellsBefore.search_iff {p : Pattern} {n : Pattern.Node} {L : List Char → Prop}
    (h : Pattern.SpellsBefore n fun w rest => Pattern.Anchor.finalEnd.Before rest ∧ L w)
    (hL : ∀ w, L w → '\n' ∉ w) (hp : p.node.isAnchored = true)
    (hnode : p.node = .sequence (.anchor .textStart) n) :
    p.search (String.ofList s) = true ↔ L (dropFinalLineFeed s) := by
  rw [Pattern.search_iff hp, hnode, ← exists_line_iff hL]
  exact h.exists_reads_iff ⟨s, []⟩

variable {c : Char}

lemma isAlpha_iff : c.isAlpha = true ↔
    97 ≤ c.toNat ∧ c.toNat ≤ 122 ∨ 65 ≤ c.toNat ∧ c.toNat ≤ 90 := by
  unfold Char.isAlpha Char.isUpper Char.isLower
  simp only [Bool.or_eq_true, Bool.and_eq_true, decide_eq_true_iff]
  exact Or.comm

lemma isAlphanum_iff : c.isAlphanum = true ↔
    (97 ≤ c.toNat ∧ c.toNat ≤ 122 ∨ 65 ≤ c.toNat ∧ c.toNat ≤ 90) ∨
      48 ≤ c.toNat ∧ c.toNat ≤ 57 := by
  unfold Char.isAlphanum
  rw [Bool.or_eq_true, isAlpha_iff, isDigit_iff]

lemma eq_iff_toNat {d : Char} : c = d ↔ c.toNat = d.toNat := Char.toNat_inj.symm

namespace Pattern

/-- Comparison with regard to case, of the characters of all scripts. -/
def plainly : Comparison := ⟨false, false⟩

lemma holds_set {ascii : Bool} {items : List SetItem} :
    (Single.set false items).holds ⟨false, ascii⟩ c = items.any (·.plainHolds ascii c) := by
  simp [Single.holds, setHolds]

lemma holds_code {ascii : Bool} {code : ℕ} :
    (Single.code false code).holds ⟨false, ascii⟩ c = (c.toNat == code) := by
  simp [Single.holds, Comparison.sameCode]

/-- A character that stands for itself. -/
def charSingle (c : Char) : Node := .single plainly (.code false c.toNat)

lemma spells_char (c : Char) : Spells (charSingle c) (· = [c]) := by
  refine (Spells.single _ _).congr fun w => ?_
  simp only [plainly, holds_code, beq_iff_eq, ← eq_iff_toNat, exists_eq_right]

end Pattern

end InputGuard

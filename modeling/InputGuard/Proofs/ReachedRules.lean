import InputGuard.Proofs.ConformingValues

/-!
# Rules that are reached

The rules of a schema are checked one after the other, each with what the rules before it have made
of the value. So a check fails exactly as a rule does that is reached. Texts and numbers have no
parts: their check is that of the kind and of the allowed values, and then that of the rules.
-/

namespace InputGuard

variable {ε α β : Type}

/-- A rule is reached with `b` if the rules before it make `b` of `a`. -/
def RuleReached (check : α → β → Except ε α) (rules : List β) (a : α) (rule : β) (b : α) : Prop :=
  ∃ before after, rules = before ++ rule :: after ∧ before.foldlM check a = .ok b

namespace RuleReached

variable {check : α → β → Except ε α} {rules rest : List β} {first rule : β} {a b c : α}

lemma head (a : α) (rule : β) (rest : List β) : RuleReached check (rule :: rest) a rule a :=
  ⟨[], rest, rfl, rfl⟩

lemma cons (hfirst : check a first = .ok c) (h : RuleReached check rest c rule b) :
    RuleReached check (first :: rest) a rule b := by
  obtain ⟨before, after, rfl, hbefore⟩ := h
  refine ⟨first :: before, after, rfl, ?_⟩
  rw [List.foldlM_cons, hfirst]
  exact hbefore

lemma mem (h : RuleReached check rules a rule b) : rule ∈ rules := by
  obtain ⟨before, after, rfl, -⟩ := h
  exact List.mem_append_right before List.mem_cons_self

/-- What the rules keep holds of what they are reached with. -/
lemma keeps (holds : α → Prop) (hkeep : ∀ a rule b, holds a → check a rule = .ok b → holds b)
    (ha : holds a) (h : RuleReached check rules a rule b) : holds b := by
  obtain ⟨before, after, rfl, hbefore⟩ := h
  exact foldlM_keeps holds (fun a rule _ b => hkeep a rule b) ha hbefore

end RuleReached

/-- Rules fail as the rule does that is reached and fails. -/
lemma foldlM_eq_error_iff {check : α → β → Except ε α} {rules : List β} {a : α} {e : ε} :
    rules.foldlM check a = .error e ↔
      ∃ rule b, RuleReached check rules a rule b ∧ check b rule = .error e := by
  constructor
  · intro h
    induction rules generalizing a with
    | nil => cases h
    | cons first rest ih =>
      rw [List.foldlM_cons] at h
      cases hfirst : check a first with
      | error e' =>
        rw [hfirst] at h
        cases h
        exact ⟨first, a, .head a first rest, hfirst⟩
      | ok c =>
        rw [hfirst] at h
        obtain ⟨rule, b, hreached, hrule⟩ := ih h
        exact ⟨rule, b, hreached.cons hfirst, hrule⟩
  · rintro ⟨rule, b, ⟨before, after, rfl, hbefore⟩, hrule⟩
    rw [List.foldlM_append, hbefore]
    change (rule :: after).foldlM check b = .error e
    rw [List.foldlM_cons, hrule]
    rfl

namespace Schema

variable {store : Store} {visit : Visit} {settings : Settings}

/-- A text is checked by the rules if it is allowed. -/
lemma validate_text {rules : List StringRule} (s : String) :
    (string settings rules).validate store visit (.str s) = do
      settings.permit (visit.under settings) (.str s)
      return .str (← rules.foldlM (fun s rule => rule.check (visit.under settings) s) s) := by
  exact validate_whole rfl rfl (by nofun)

/-- A value that is taken for a number is checked by the rules if the number is allowed. -/
lemma validate_number {rules : List NumberRule} {anySize : Bool} {v : Value} (hv : v ≠ .null) :
    (number settings rules anySize).validate store visit v = do
      let x ← v.toNumber (visit.under settings) anySize
      settings.permit (visit.under settings) (.number x)
      return .number (← rules.foldlM (fun x rule => rule.check (visit.under settings) x) x) := by
  exact validate_whole rfl rfl hv

end Schema

variable {store : Store} {prefs : Preferences} {env : Environment}

/-- The check of a text by one rule and nothing else. -/
lemma attempt_textRule (rule : StringRule) (s : String) :
    attempt store prefs env (.string .plain [rule]) (.str s) =
      .str <$> rule.check ⟨[], prefs, env⟩ s := by
  rw [attempt, Schema.validate_text, Schema.under_plain, List.foldlM_cons]
  cases rule.check ⟨[], prefs, env⟩ s <;> rfl

/-- The check of a number within bounds by one rule and nothing else. -/
lemma attempt_numberRule {x : Number} {anySize : Bool}
    (hx : x.require ⟨[], prefs, env⟩ anySize = .ok x) (rule : NumberRule) :
    attempt store prefs env (.number .plain [rule] anySize) (.number x) =
      .number <$> rule.check ⟨[], prefs, env⟩ x := by
  have hnumber : (Value.number x).toNumber ⟨[], prefs, env⟩ anySize = .ok x := hx
  have hnull : Value.number x ≠ .null := nofun
  rw [attempt, Schema.validate_number hnull, Schema.under_plain, hnumber]
  change (do return .number (← [rule].foldlM (fun x rule => rule.check ⟨[], prefs, env⟩ x) x) :
    Checked Value) = _
  rw [List.foldlM_cons]
  cases rule.check ⟨[], prefs, env⟩ x <;> rfl

end InputGuard

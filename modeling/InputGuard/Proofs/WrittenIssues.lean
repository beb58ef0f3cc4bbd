import InputGuard.Proofs.ReachedRules

/-!
# Issues that can be written

Everything that is known of an issue is written when it is reported: the label of the place, the
value and the particulars of the case. That fails only for integers with too many digits.
-/

namespace InputGuard

/-- Whether all that is known of an issue can be written. -/
def Detail.hasText (detail : Detail) : Bool := (Value.object detail.context).hasText

namespace Value

lemma hasText_object {entries : Entries} :
    (object entries).hasText = true ↔ ∀ e ∈ entries, e.2.hasText = true := by
  have hentries : entriesHaveText entries = true ↔ ∀ e ∈ entries, e.2.hasText = true := by
    induction entries with
    | nil => exact iff_of_true rfl (List.forall_mem_nil _)
    | cons e rest ih => rw [entriesHaveText, Bool.and_eq_true, ih, List.forall_mem_cons]
  exact hentries

lemma hasText_strings (texts : List String) : (strings texts).hasText = true := by
  have hitems : itemsHaveText (texts.map str) = true := by
    induction texts with
    | nil => rfl
    | cons s rest ih => exact ih
  exact hitems

end Value

/-- The value is part of what is known of an issue with it. -/
lemma Visit.hasText_of_detail {visit : Visit} {issue : Issue} {v : Value} {particulars : Entries}
    (h : (visit.detail issue v particulars).hasText = true) : v.hasText = true := by
  refine Value.hasText_object.mp h ("value", v) ?_
  dsimp only [detail, context]
  split <;> simp

variable {α β : Type}

/-- The issue of a check can be written, if there is one. -/
def Written (x : Checked α) : Prop := ∀ detail, x = .error (.issue detail) → detail.hasText = true

namespace Written

lemma ok (a : α) : Written (.ok a : Checked α) := nofun

lemma orFault (x : Except Fault α) : Written (InputGuard.orFault x) := by
  intro detail h
  obtain ⟨f, -, hfault⟩ := orFault_eq_error.mp h
  cases hfault

/-- The label is a text, and the last step of the path is one or a position. -/
lemma refuse {visit : Visit} {issue : Issue} {v : Value} {particulars : Entries}
    (hpath : ∀ step ∈ visit.path, step.value.hasText = true) (hv : v.hasText = true)
    (hparticulars : ∀ e ∈ particulars, e.2.hasText = true) :
    Written (visit.refuse issue v particulars : Checked α) := by
  intro detail h
  obtain rfl := Refusal.issue.inj (Except.error.inj h)
  have hbase : ∀ e ∈ ("label", .str visit.label) :: ("value", v) :: particulars,
      e.2.hasText = true := by
    rw [List.forall_mem_cons, List.forall_mem_cons]
    exact ⟨rfl, hv, hparticulars⟩
  refine Value.hasText_object.mpr fun e he => ?_
  dsimp only [Visit.detail, Visit.context] at he
  split at he
  · rename_i step hlast
    rcases List.mem_append.mp he with he | he
    · exact hbase e he
    · rw [List.mem_singleton.mp he]
      exact hpath step (List.mem_of_getLast? hlast)
  · exact hbase e he

lemma bind {x : Checked α} {k : α → Checked β} (hx : Written x)
    (hk : ∀ a, x = .ok a → Written (k a)) : Written (x >>= k) := by
  intro detail h
  rcases bind_eq_error.mp h with herror | ⟨a, ha, herror⟩
  · exact hx detail herror
  · exact hk a ha detail herror

/-- The issues of rules can be written if those of each rule can, whatever it is reached with. -/
lemma foldlM {check : α → β → Checked α} {rules : List β} {a : α}
    (h : ∀ rule b, RuleReached check rules a rule b → Written (check b rule)) :
    Written (rules.foldlM check a) := by
  intro detail herror
  obtain ⟨rule, b, hreached, hrule⟩ := foldlM_eq_error_iff.mp herror
  exact h rule b hreached detail hrule

end Written

lemma Settings.permit_ne_fault {settings : Settings} {visit : Visit} {v : Value} {f : Fault} :
    settings.permit visit v ≠ .error (.fault f) := by
  unfold Settings.permit
  split
  · nofun
  · split <;> nofun

lemma Settings.permit_written {settings : Settings} {visit : Visit} {v : Value}
    (hpath : ∀ step ∈ visit.path, step.value.hasText = true) (hv : v.hasText = true)
    (hallowed : ∀ values ∈ settings.allowed, (Value.list values).hasText = true) :
    Written (settings.permit visit v) := by
  unfold Settings.permit
  split
  · exact .ok ()
  · rename_i values hvalues
    split
    · exact .ok ()
    · exact .refuse hpath hv (by simpa using hallowed values hvalues)

end InputGuard

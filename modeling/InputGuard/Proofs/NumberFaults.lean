import InputGuard.Proofs.FiniteNumbers
import InputGuard.Proofs.WrittenIssues

/-!
# Faults of number checks

The check of a number ends with a fault in three cases: at the text of an undefined number that
signals, at an integer beyond the binary numbers where multiples are looked for, and at an integer
with too many digits where its decimal places are counted. In all other cases it gives null or a
finite number, or an issue.
-/

namespace InputGuard

open Binary64

namespace Number

/-- Integers that are rounded out of the range of binary numbers. -/
def BeyondBinary (x : Number) : Prop := ∃ n : ℤ, x = .int n ∧ leastInfinite ≤ n.natAbs

lemma toBinary?_eq_none {x : Number} : x.toBinary? = none ↔ x.BeyondBinary := by
  match x with
  | float b => exact iff_of_false nofun (by rintro ⟨n, h, -⟩; cases h)
  | int n =>
    have hrange : ofInt? n = none ↔
        ¬∃ b, ofRatio (decide (n < 0)) n.natAbs 1 = .finite b := by
      unfold ofInt?
      split
      · rename_i b hb
        exact iff_of_false nofun (fun h => h ⟨b, hb⟩)
      · rename_i hnone
        exact iff_of_true rfl (fun ⟨b, hb⟩ => hnone b hb)
    rw [toBinary?, Option.map_eq_none_iff, hrange, exists_ofRatio_iff _ Nat.one_pos, Nat.mul_one,
      not_lt]
    constructor
    · exact fun h => ⟨n, rfl, h⟩
    · rintro ⟨m, hm, h⟩
      cases hm
      exact h

end Number

namespace NumberRule

/-- When a rule ends the check of a number with a fault. -/
inductive Faults : NumberRule → Number → Fault → Prop
  | multiple {base x : Number} (h : x.BeyondBinary ∨ base.BeyondBinary) :
      Faults (.multiple base) x .overflow
  | precision {limit : ℕ} {x : Number} (h : x.hasText = false) :
      Faults (.precision limit) x .badValue

variable {visit : Visit} {rule : NumberRule} {x y base : Number} {f : Fault}

lemma isMultiple_eq_error :
    isMultiple x base = .error f ↔ f = .overflow ∧ (x.BeyondBinary ∨ base.BeyondBinary) := by
  rw [← Number.toBinary?_eq_none, ← Number.toBinary?_eq_none]
  unfold isMultiple
  cases x.toBinary? with
  | none => simp [eq_comm]
  | some a =>
    cases base.toBinary? with
    | none => simp [eq_comm]
    | some b => simp

lemma require_ne_fault (issue : Issue) (particulars : Entries) (holds : Bool) :
    require visit issue x particulars holds ≠ .error (.fault f) := by
  unfold require
  split <;> nofun

lemma check_eq_fault_iff : rule.check visit x = .error (.fault f) ↔ rule.Faults x f := by
  constructor
  · intro h
    cases rule with
    | bound | integer | port => exact absurd h (require_ne_fault _ _ _)
    | sign s => cases s <;> exact absurd h (require_ne_fault _ _ _)
    | multiple base =>
      rcases bind_eq_error.mp h with h | ⟨holds, -, h⟩
      · obtain ⟨f', hf, heq⟩ := orFault_eq_error.mp h
        cases heq
        obtain ⟨rfl, hbeyond⟩ := isMultiple_eq_error.mp hf
        exact .multiple hbeyond
      · exact absurd h (require_ne_fault _ _ _)
    | precision limit =>
      simp only [check, checkPrecision] at h
      split at h
      · rename_i htext
        cases h
        exact .precision (by simpa using htext)
      · split at h
        · cases h
        · split at h <;> cases h
  · intro h
    cases h with
    | multiple hbeyond =>
      refine bind_eq_error.mpr (Or.inl (orFault_eq_error.mpr ⟨.overflow, ?_, rfl⟩))
      exact isMultiple_eq_error.mpr ⟨rfl, hbeyond⟩
    | precision htext =>
      simp only [check, checkPrecision, htext]
      rfl

/-- Whether the limit of a rule can be written. -/
def hasText : NumberRule → Bool
  | bound _ limit => limit.hasText
  | multiple base => base.hasText
  | precision limit => (Number.int limit).hasText
  | _ => true

lemma require_written {issue : Issue} {particulars : Entries} {holds : Bool}
    (hpath : ∀ step ∈ visit.path, step.value.hasText = true) (hx : x.hasText = true)
    (hparticulars : ∀ e ∈ particulars, e.2.hasText = true) :
    Written (require visit issue x particulars holds) := by
  unfold require
  split
  · exact .ok x
  · exact .refuse hpath hx hparticulars

lemma check_written (hpath : ∀ step ∈ visit.path, step.value.hasText = true)
    (hx : x.hasText = true) (hrule : rule.hasText = true) : Written (rule.check visit x) := by
  have hlimit : ∀ {name : String} {v : Value}, v.hasText = true →
      ∀ e ∈ [(name, v)], e.2.hasText = true := by
    intro name v hv
    exact List.forall_mem_singleton.mpr hv
  cases rule with
  | bound b limit => exact require_written hpath hx (hlimit hrule)
  | integer | port => exact require_written hpath hx (List.forall_mem_nil _)
  | sign s => cases s <;> exact require_written hpath hx (List.forall_mem_nil _)
  | multiple base =>
    exact (Written.orFault _).bind fun _ _ => require_written hpath hx (hlimit hrule)
  | precision limit =>
    simp only [check, checkPrecision]
    split
    · intro detail h
      cases h
    · split
      · exact .ok x
      · split
        · exact .ok _
        · exact .refuse hpath hx (hlimit hrule)

end NumberRule

namespace Number

variable {visit : Visit} {anySize : Bool} {x : Number} {s : String} {f : Fault}

lemma require_ne_fault : x.require visit anySize ≠ .error (.fault f) := by
  unfold require
  split
  · nofun
  · nofun
  · split <;> nofun

lemma ofText_eq_fault_iff :
    ofText visit s = .error (.fault f) ↔ f = .badValue ∧ readDecimal? s = some .signaling := by
  unfold ofText
  split
  · rename_i h
    simp [h, Visit.refuse]
  · rename_i h
    simp [h, eq_comm]
  · rename_i h
    simp [h]
  · rename_i h
    simp [h]
  · rename_i h
    split <;> simp [h]

lemma require_written (hpath : ∀ step ∈ visit.path, step.value.hasText = true)
    (hx : x.hasText = true) : Written (x.require visit anySize) := by
  unfold require
  split
  · exact .refuse hpath hx (List.forall_mem_nil _)
  · exact .refuse hpath hx (List.forall_mem_nil _)
  · split
    · exact .ok _
    · exact .refuse hpath hx (List.forall_mem_nil _)

lemma ofText_written (hpath : ∀ step ∈ visit.path, step.value.hasText = true) :
    Written (ofText visit s) := by
  unfold ofText
  split
  · exact .refuse hpath rfl (List.forall_mem_nil _)
  · exact nofun
  · exact .ok _
  · exact .ok _
  · split <;> exact .ok _

end Number

namespace Value

variable {visit : Visit} {anySize : Bool} {v : Value} {f : Fault}

lemma toNumber_eq_fault_iff : v.toNumber visit anySize = .error (.fault f) ↔
    f = .badValue ∧ visit.prefs.convert = true ∧
      ∃ s, v = .str s ∧ readDecimal? s = some .signaling := by
  have hother : ∀ w : Value, (∀ s, w ≠ .str s) → w.toNumber visit anySize ≠ .error (.fault f) := by
    intro w hw
    unfold toNumber
    split
    · exact Number.require_ne_fault
    · exact absurd rfl (hw _)
    · nofun
  by_cases hv : ∃ s, v = .str s
  · obtain ⟨s, rfl⟩ := hv
    unfold toNumber
    dsimp only
    split
    · rename_i hconvert
      rw [bind_eq_error, Number.ofText_eq_fault_iff]
      constructor
      · rintro (⟨rfl, hs⟩ | ⟨x, -, hx⟩)
        · exact ⟨rfl, hconvert, s, rfl, hs⟩
        · exact absurd hx Number.require_ne_fault
      · rintro ⟨rfl, -, s', hs', hs⟩
        cases hs'
        exact Or.inl ⟨rfl, hs⟩
    · rename_i hconvert
      exact iff_of_false nofun (fun h => hconvert h.2.1)
  · refine iff_of_false (hother v fun s hs => hv ⟨s, hs⟩) ?_
    rintro ⟨-, -, s, hs, -⟩
    exact hv ⟨s, hs⟩

lemma toNumber_written (hpath : ∀ step ∈ visit.path, step.value.hasText = true)
    (hv : v.hasText = true) : Written (v.toNumber visit anySize) := by
  unfold toNumber
  split
  · exact Number.require_written hpath hv
  · split
    · exact (Number.ofText_written hpath).bind fun x hx =>
        Number.require_written hpath (Number.hasText_ofText hx)
    · exact .refuse hpath hv (List.forall_mem_nil _)
  · exact .refuse hpath hv (List.forall_mem_nil _)

end Value

namespace Schema

section Numbers

variable (visit : Visit) (settings : Settings) (rules : List NumberRule) (anySize : Bool)

/-- When the check of a value as a number ends with a fault. -/
inductive NumberFaults : Value → Fault → Prop
  | signaling {s : String} (hconvert : (visit.under settings).prefs.convert = true)
      (hs : readDecimal? s = some .signaling) : NumberFaults (.str s) .badValue
  | rule {v : Value} {x y : Number} {rule : NumberRule} {f : Fault}
      (hx : v.toNumber (visit.under settings) anySize = .ok x)
      (hallowed : settings.permit (visit.under settings) (.number x) = .ok ())
      (hreached : RuleReached (fun x rule => rule.check (visit.under settings) x) rules x rule y)
      (hf : rule.Faults y f) : NumberFaults v f

end Numbers

variable {store : Store} {visit : Visit} {settings : Settings} {rules : List NumberRule}
  {anySize : Bool} {v : Value} {f : Fault}

lemma validate_number_eq_fault_iff :
    (number settings rules anySize).validate store visit v = .error (.fault f) ↔
      NumberFaults visit settings rules anySize v f := by
  by_cases hv : v = .null
  · subst hv
    rw [validate]
    refine iff_of_false nofun ?_
    intro h
    cases h with
    | rule hx => cases hx
  rw [validate_number hv, bind_eq_error, Value.toNumber_eq_fault_iff]
  constructor
  · rintro (⟨rfl, hconvert, s, rfl, hs⟩ | ⟨x, hx, hrest⟩)
    · exact .signaling hconvert hs
    · rcases bind_eq_error.mp hrest with hpermit | ⟨⟨⟩, hpermit, hrules⟩
      · exact absurd hpermit Settings.permit_ne_fault
      · obtain ⟨rule, y, hreached, hrule⟩ := foldlM_eq_error_iff.mp (map_eq_error.mp hrules)
        exact .rule hx hpermit hreached (NumberRule.check_eq_fault_iff.mp hrule)
  · intro h
    cases h with
    | signaling hconvert hs => exact Or.inl ⟨rfl, hconvert, _, rfl, hs⟩
    | rule hx hallowed hreached hf =>
      refine Or.inr ⟨_, hx, bind_eq_error.mpr (Or.inr ⟨(), hallowed, map_eq_error.mpr ?_⟩)⟩
      exact foldlM_eq_error_iff.mpr ⟨_, _, hreached, NumberRule.check_eq_fault_iff.mpr hf⟩

/-- What passes the check is null or a finite number. -/
lemma validate_number_ok {w : Value}
    (h : (number settings rules anySize).validate store visit v = .ok w) :
    w = .null ∨ ∃ x, w = .number x ∧ x.isFinite = true := by
  by_cases hv : v = .null
  · subst hv
    exact Or.inl (validate_null.mp h)
  rw [validate_number hv] at h
  obtain ⟨x, hx, h⟩ := bind_eq_ok.mp h
  obtain ⟨⟨⟩, -, h⟩ := bind_eq_ok.mp h
  obtain ⟨y, hrules, hw⟩ := bind_eq_ok.mp h
  refine Or.inr ⟨y, (Except.ok.inj hw).symm, ?_⟩
  exact foldlM_keeps (fun x : Number => x.isFinite = true)
    (fun _ _ _ _ hx hrule => NumberRule.isFinite_check hx hrule) (Value.toNumber_cases hx).1 hrules

lemma validate_number_written (hpath : ∀ step ∈ visit.path, step.value.hasText = true)
    (hv : v.hasText = true)
    (hallowed : ∀ values ∈ settings.allowed, (Value.list values).hasText = true)
    (hrules : ∀ rule ∈ rules, rule.hasText = true) :
    Written ((number settings rules anySize).validate store visit v) := by
  by_cases hnull : v = .null
  · subst hnull
    rw [validate]
    exact .ok _
  have hpath' : ∀ step ∈ (visit.under settings).path, step.value.hasText = true := hpath
  rw [validate_number hnull]
  refine (Value.toNumber_written hpath' hv).bind fun x hx => ?_
  have hxtext := Value.hasText_toNumber hv hx
  have hnumber : (Value.number x).hasText = true := hxtext
  refine (Settings.permit_written hpath' hnumber hallowed).bind fun _ _ => ?_
  refine Written.bind (Written.foldlM fun rule y hreached => ?_) fun _ _ => .ok _
  have hytext := hreached.keeps (fun x : Number => x.hasText = true)
    (fun _ _ _ hx hrule => NumberRule.hasText_check hx hrule) hxtext
  exact NumberRule.check_written hpath' hytext (hrules rule hreached.mem)

/-- The check of a number ends with a fault in the three cases only. What passes is null or a finite
number, and what does not is an issue. All that is said of an issue can be written as long as that
holds of the value, of the place and of what the schema asks for: an integer with more than 4300
digits cannot be written. -/
theorem number_total (store : Store) (visit : Visit) (settings : Settings)
    (rules : List NumberRule) (anySize : Bool) (v : Value) :
    (∀ f, (number settings rules anySize).validate store visit v = .error (.fault f) ↔
      NumberFaults visit settings rules anySize v f) ∧
    (∀ w, (number settings rules anySize).validate store visit v = .ok w →
      w = .null ∨ ∃ x, w = .number x ∧ x.isFinite = true) ∧
    ((∀ step ∈ visit.path, step.value.hasText = true) → v.hasText = true →
      (∀ values ∈ settings.allowed, (Value.list values).hasText = true) →
      (∀ rule ∈ rules, rule.hasText = true) →
      ∀ detail, (number settings rules anySize).validate store visit v = .error (.issue detail) →
        detail.hasText = true) :=
  ⟨fun _ => validate_number_eq_fault_iff, fun _ h => validate_number_ok h,
    fun hpath hv hallowed hrules => validate_number_written hpath hv hallowed hrules⟩

/-- A text that is no number, where values are converted. -/
theorem number_total_word :
    let env : Environment := .epoch
    let visit : Visit := ⟨[.key "count"], ⟨true, false⟩, env⟩
    ∃ detail, (number .plain [.multiple (.int 3)] false).validate .empty visit (.str "three") =
      .error (.issue detail) ∧ detail.hasText = true := by
  intro env visit
  obtain ⟨-, -, hwritten⟩ := number_total .empty visit .plain [.multiple (.int 3)] false
    (.str "three")
  have hrefused : (number .plain [.multiple (.int 3)] false).validate .empty visit (.str "three") =
      visit.refuse .numberBase (.str "three") [] := by
    have hread : readDecimal? "three" = none := by decide
    have htext : Value.str "three" ≠ .null := nofun
    have hconvert : (visit.under .plain).prefs.convert = true := rfl
    rw [validate_number htext, Value.toNumber, if_pos hconvert, Number.ofText, hread]
    rfl
  exact ⟨_, hrefused, hwritten (by decide) rfl nofun (by decide) _ hrefused⟩

/-- The text of an undefined number that signals is no number, but that is not what is said of it. -/
theorem not_number_total :
    ¬∀ (store : Store) (visit : Visit) (settings : Settings) (rules : List NumberRule)
      (anySize : Bool) (v : Value) (f : Fault),
      (number settings rules anySize).validate store visit v ≠ .error (.fault f) := by
  intro htotal
  have hsignaling : readDecimal? "sNaN" = some .signaling := by decide
  refine htotal .empty ⟨[], ⟨true, false⟩, .epoch⟩ .plain [] false (.str "sNaN")
    .badValue (validate_number_eq_fault_iff.mpr (.signaling rfl hsignaling))

end Schema

end InputGuard

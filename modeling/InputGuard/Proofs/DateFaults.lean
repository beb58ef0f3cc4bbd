import InputGuard.Proofs.ExactTimestamps
import InputGuard.Proofs.FiniteNumbers
import InputGuard.Proofs.WrittenIssues

/-!
# Faults of date checks

Where values are converted, the check of a date takes the moment that is read and refuses a value
that is not read as one. What is read can be written. What is refused need not be: an integer with
too many digits is no date, nor is a list with such an integer in it, and their issue has no message.
-/

namespace InputGuard

/-- A timestamp in the calendar can be written. -/
lemma hasText_of_timestampMoment {unit : TimeUnit} {x : Number} {m : Moment}
    (h : timestampMoment unit x = .ok (some m)) : x.hasText = true := by
  match unit, x with
  | _, .float _ => rfl
  | .seconds, .int n =>
    rw [timestampMoment_seconds] at h
    have hrange := Moment.afterEpoch?_range (Except.ok.inj h)
    have hroom : 10 ^ 12 ≤ Binary64.leastInfinite * tenTo 0 := by decide +kernel
    exact Number.hasText_int 0 (Nat.zero_le _) (by omega)
  | .milliseconds, .int n =>
    have hthousand : tenTo 3 = 1000 := rfl
    refine Number.hasText_int 3 (by decide) (not_le.mp fun hlarge => ?_)
    rw [hthousand] at hlarge
    have hfault : timestampMoment .milliseconds (.int n) = .error .overflow :=
      timestampMoment_eq_error_iff.mpr ⟨rfl, rfl, n, rfl, hlarge⟩
    rw [hfault] at h
    cases h

namespace Value

variable {format : Option DateFormat} {v : Value}

/-- What is read as a moment can be written. -/
lemma hasText_of_toMoment {m : Moment} (h : v.toMoment format = .ok (some m)) :
    v.hasText = true := by
  match v with
  | .number x =>
    match format with
    | some .iso => cases h
    | some (.timestamp unit) => exact hasText_of_timestampMoment h
    | none =>
      have hmilli : timestampMoment .milliseconds x = .ok (some m) := h
      exact hasText_of_timestampMoment hmilli
  | .moment _ | .day _ | .str _ => rfl
  | .null | .bool _ | .list _ | .object _ | .pattern _ => cases h

/-- Where values are converted, the check of a date takes the moment that is read. -/
lemma toDate_eq {visit : Visit} (hconvert : visit.prefs.convert = true) :
    v.toDate visit format = (orFault (v.toMoment format) >>= fun
      | some m => .ok m
      | none => refuseDate visit format v) := by
  unfold toDate
  split
  · rename_i m
    have hread : (Value.moment m).toMoment format = some <$> m.universal := rfl
    rw [hread]
    cases m.universal <;> rfl
  · rw [hconvert, Bool.not_true, if_neg Bool.false_ne_true]
    rfl

/-- What is said of a value that is no date, apart from the value itself, can be written. -/
lemma exists_refuseDate (visit : Visit) (format : Option DateFormat) (v : Value) :
    ∃ issue particulars, (issue.code = "date.base" ∨ issue.code = "date.format") ∧
      (∀ e ∈ particulars, e.2.hasText = true) ∧
        refuseDate visit format v = visit.refuse issue v particulars := by
  match format with
  | none => exact ⟨.dateBase, [], Or.inl rfl, List.forall_mem_nil _, rfl⟩
  | some f =>
    refine ⟨f.issue, [("format", .str f.name)], Or.inr ?_, List.forall_mem_singleton.mpr rfl, rfl⟩
    match f with
    | .iso | .timestamp .milliseconds | .timestamp .seconds => rfl

end Value

/-- The ends of a check of a date: a moment on a universal clock, or one of two issues, which can be
written. -/
inductive DateOutcome : Checked Value → Prop
  | moment {m : Moment} (h : m.offset = some 0) : DateOutcome (.ok (.moment m))
  | refused {detail : Detail} (h : detail.code = "date.base" ∨ detail.code = "date.format")
      (hwritten : detail.hasText = true) : DateOutcome (.error (.issue detail))

namespace Schema

variable {store : Store} {visit : Visit} {settings : Settings} {format : Option DateFormat}
  {v : Value}

/-- The check of a date without rules is its conversion. -/
lemma validate_date (hallowed : settings.allowed = none) (hv : v ≠ .null) :
    (date settings [] format).validate store visit v =
      .moment <$> v.toDate (visit.under settings) format := by
  have hfinish : (date settings [] format).validate store visit v =
      (date settings [] format).finish (visit.under settings) v := by
    match v with
    | .null => exact absurd rfl hv
    | .list items => rw [validate]; rfl
    | .object entries => rw [validate]; rfl
    | .bool _ | .number _ | .str _ | .moment _ | .day _ | .pattern _ =>
      rw [validate]
      · rfl
      all_goals nofun
  rw [hfinish]
  unfold finish Settings.permit
  dsimp only
  rw [hallowed]
  cases v.toDate (visit.under settings) format <;> rfl

/-- A value of none of the four kinds is read as a moment on a universal clock, or as none. A check
that converts it ends with such a moment too, or with the issue that there is no date or none in the
format, if and only if the value can be written. Null does not come to such a check, since it is a
value of every schema. -/
theorem date_total (format : Option DateFormat) (v : Value) :
    (∀ f, v.toMoment format = .error f ↔ v.Faults format f) ∧
      ((∀ f, ¬v.Faults format f) →
        (∃ m?, v.toMoment format = .ok m? ∧ ∀ m ∈ m?, m.offset = some 0) ∧
          ∀ (store : Store) (visit : Visit) (settings : Settings),
            (visit.under settings).prefs.convert = true → settings.allowed = none → v ≠ .null →
              (∀ step ∈ visit.path, step.value.hasText = true) →
              (DateOutcome ((date settings [] format).validate store visit v) ↔
                v.hasText = true)) := by
  refine ⟨fun f => Value.toMoment_eq_error_iff, fun hfaults => ?_⟩
  obtain ⟨m?, hread⟩ : ∃ m?, v.toMoment format = .ok m? := by
    cases hread : v.toMoment format with
    | error f => exact absurd (Value.toMoment_eq_error_iff.mp hread) (hfaults f)
    | ok m? => exact ⟨m?, rfl⟩
  refine ⟨⟨m?, hread, ?_⟩, ?_⟩
  · rintro m rfl
    exact Value.offset_toMoment hread
  · intro store visit settings hconvert hallowed hv hpath
    rw [validate_date hallowed hv, Value.toDate_eq hconvert, hread]
    cases m? with
    | some m =>
      exact iff_of_true (.moment (Value.offset_toMoment hread)) (Value.hasText_of_toMoment hread)
    | none =>
      obtain ⟨issue, particulars, hcode, htexts, hrefuse⟩ :=
        Value.exists_refuseDate (visit.under settings) format v
      have hpath' : ∀ step ∈ (visit.under settings).path, step.value.hasText = true := hpath
      change DateOutcome (.moment <$> Value.refuseDate (visit.under settings) format v) ↔ _
      rw [hrefuse]
      constructor
      · intro houtcome
        cases houtcome with
        | refused _ hwritten => exact Visit.hasText_of_detail hwritten
      · exact fun htext => .refused hcode (Written.refuse (α := Value) hpath' htext htexts _ rfl)

/-- A text with an offset, at noon. -/
def noon : Value := .str "2024-02-29T12:00+01:00"

theorem date_total_noon :
    let env : Environment := .epoch
    let visit : Visit := ⟨[], ⟨true, false⟩, env⟩
    (∀ f, ¬noon.Faults none f) ∧ (visit.under .plain).prefs.convert = true ∧
      Settings.plain.allowed = none ∧ noon ≠ .null ∧ noon.hasText = true ∧
        (∃ m?, noon.toMoment none = .ok m? ∧ ∀ m ∈ m?, m.offset = some 0) ∧
          DateOutcome ((date .plain [] none).validate .empty visit noon) := by
  intro env visit
  have hok : (noon.toMoment none).isOk = true := by decide +kernel
  have hfaults : ∀ f, ¬noon.Faults none f := by
    intro f hf
    rw [((date_total none noon).1 f).mpr hf] at hok
    cases hok
  obtain ⟨hread, houtcome⟩ := (date_total none noon).2 hfaults
  have hnoon := (houtcome .empty visit .plain rfl rfl nofun (List.forall_mem_nil _)).mpr rfl
  exact ⟨hfaults, rfl, rfl, nofun, rfl, hread, hnoon⟩

/-- An hour ahead of universal time, the first midnight of the calendar is in no year of it. -/
theorem not_date_total :
    ¬∀ (format : Option DateFormat) (v : Value), ∃ m?, v.toMoment format = .ok m? := by
  intro htotal
  have hfault : ((Value.str "0001-01-01T00:00+01:00").toMoment none).isOk = false := by
    decide +kernel
  obtain ⟨m?, hread⟩ := htotal none (.str "0001-01-01T00:00+01:00")
  rw [hread] at hfault
  cases hfault

end Schema

end InputGuard

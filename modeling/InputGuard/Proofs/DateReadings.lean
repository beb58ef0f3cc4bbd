import InputGuard.Proofs.NearestNumbers
import InputGuard.Proofs.Outcomes
import InputGuard.Proofs.TimestampTexts

/-!
# Dates that are read

A value is read as a moment on a universal clock or as none at all. Four kinds of values are out of
reach: moments that a universal clock shows outside the calendar, ISO 8601 texts of such moments,
integers beyond the binary numbers, and timestamps with information separators around them. Those
end the reading with a fault.
-/

namespace InputGuard

open Unicode

namespace Moment

variable {m u : Moment} {clock : ℤ} {offset : Option ℤ}

lemma ofClock?_eq_some (h : ofClock? clock offset = some m) :
    (m.clock : ℤ) = clock ∧ m.offset = offset := by
  unfold ofClock? at h
  by_cases hclock : 0 ≤ clock ∧ clock.toNat < microLimit
  · rw [dif_pos hclock] at h
    obtain rfl := Option.some.inj h
    exact ⟨Int.toNat_of_nonneg hclock.1, rfl⟩
  · rw [dif_neg hclock] at h
    cases h

lemma ofClock?_eq_none_iff :
    ofClock? clock offset = none ↔ clock < 0 ∨ (microLimit : ℤ) ≤ clock := by
  unfold ofClock?
  by_cases hclock : 0 ≤ clock ∧ clock.toNat < microLimit
  · rw [dif_pos hclock]
    exact iff_of_false nofun (by omega)
  · rw [dif_neg hclock]
    exact iff_of_true rfl (by omega)

/-- A universal clock shows the moment outside the calendar. -/
def Beyond (m : Moment) : Prop := m.universalClock < 0 ∨ (microLimit : ℤ) ≤ m.universalClock

lemma not_beyond_of_offset (h : m.offset = none) : ¬m.Beyond := by
  have hclock : m.universalClock = m.clock := by
    rw [universalClock, h, Option.getD_none, sub_zero]
  have hrange := m.inRange
  unfold Beyond
  omega

lemma universal_eq_ok (h : m.universal = .ok u) :
    (u.clock : ℤ) = m.universalClock ∧ u.offset = some 0 := by
  unfold universal toUniversal? at h
  cases hclock : ofClock? m.universalClock (some 0) with
  | none => rw [hclock] at h; cases h
  | some u' =>
    rw [hclock] at h
    obtain rfl := Except.ok.inj h
    exact ofClock?_eq_some hclock

lemma universal_eq_error_iff {f : Fault} :
    m.universal = .error f ↔ f = .overflow ∧ m.Beyond := by
  have hnone : ofClock? m.universalClock (some 0) = none ↔ m.Beyond := ofClock?_eq_none_iff
  rw [← hnone]
  unfold universal toUniversal?
  cases ofClock? m.universalClock (some 0) with
  | none => exact ⟨fun h => ⟨(Except.error.inj h).symm, rfl⟩, fun h => h.1 ▸ rfl⟩
  | some u => exact iff_of_false nofun (fun h => nomatch h.2)

/-- Moments that are read in a layout have no offset. -/
lemma offset_readLayout? {s : List Char} (h : readLayout? s = some m) : m.offset = none := by
  obtain ⟨layout, -, h⟩ := List.exists_of_findSome?_eq_some h
  obtain ⟨parts, -, h⟩ := Option.bind_eq_some_iff.mp h
  obtain ⟨day, -, h⟩ := Option.bind_eq_some_iff.mp h
  unfold ofDay? at h
  split at h
  · exact (ofClock?_eq_some h).2
  · cases h

lemma offset_ofSeconds? {seconds : ℤ} {micros : ℕ} (h : ofSeconds? seconds micros = some m) :
    m.offset = some 0 := by
  unfold ofSeconds? at h
  exact (ofClock?_eq_some h).2

lemma offset_ofTimestamp? {x : Number} (h : ofTimestamp? x = some m) : m.offset = some 0 := by
  unfold ofTimestamp? at h
  split at h
  · exact offset_ofSeconds? h
  · rename_i x
    obtain ⟨seconds, micros⟩ := x.toMicros
    dsimp only at h
    exact offset_ofSeconds? h
  · cases h

end Moment

lemma thousandth?_eq_none_iff {x : Number} :
    x.thousandth? = none ↔ ∃ n : ℤ, x = .int n ∧ Binary64.leastInfinite * 1000 ≤ n.natAbs := by
  unfold Number.thousandth?
  split
  · rename_i n
    have hrange : (∃ x, Binary64.ofRatio (decide (n < 0)) n.natAbs 1000 = .finite x) ↔
        n.natAbs < Binary64.leastInfinite * 1000 := Binary64.exists_ofRatio_iff _ (by decide)
    have hlarge : Binary64.leastInfinite * 1000 ≤ n.natAbs ↔
        ¬∃ x, Binary64.ofRatio (decide (n < 0)) n.natAbs 1000 = .finite x := by
      rw [hrange, not_lt]
    have hint : (∃ k : ℤ, Number.int n = .int k ∧ Binary64.leastInfinite * 1000 ≤ k.natAbs) ↔
        Binary64.leastInfinite * 1000 ≤ n.natAbs := by
      constructor
      · rintro ⟨k, hk, h⟩
        cases hk
        exact h
      · exact fun h => ⟨n, rfl, h⟩
    rw [hint, hlarge]
    cases Binary64.ofRatio (decide (n < 0)) n.natAbs 1000 with
    | finite x => exact iff_of_false nofun (fun h => h ⟨x, rfl⟩)
    | nan => exact iff_of_true rfl (fun ⟨_, h⟩ => nomatch h)
    | infinite _ => exact iff_of_true rfl (fun ⟨_, h⟩ => nomatch h)
  · exact iff_of_false nofun (fun ⟨_, h, _⟩ => nomatch h)
  · exact iff_of_false nofun (fun ⟨_, h, _⟩ => nomatch h)

lemma timestampMoment_eq_error_iff {unit : TimeUnit} {x : Number} {f : Fault} :
    timestampMoment unit x = .error f ↔ f = .overflow ∧ unit = .milliseconds ∧
      ∃ n : ℤ, x = .int n ∧ Binary64.leastInfinite * 1000 ≤ n.natAbs := by
  rw [← thousandth?_eq_none_iff]
  cases unit with
  | seconds => exact iff_of_false nofun (fun h => nomatch h.2.1)
  | milliseconds =>
    unfold timestampMoment
    dsimp only
    cases x.thousandth? with
    | none => exact ⟨fun h => ⟨(Except.error.inj h).symm, rfl, rfl⟩, fun h => h.1 ▸ rfl⟩
    | some s => exact iff_of_false nofun (fun h => nomatch h.2.2)

lemma offset_timestampMoment {unit : TimeUnit} {x : Number} {m : Moment}
    (h : timestampMoment unit x = .ok (some m)) : m.offset = some 0 := by
  unfold timestampMoment at h
  split at h
  · exact Moment.offset_ofTimestamp? (Except.ok.inj h)
  · split at h
    · exact Moment.offset_ofTimestamp? (Except.ok.inj h)
    · cases h

lemma timestampText_eq_error_iff {unit : TimeUnit} {s : String} {f : Fault}
    (hs : isTimestampText s.toList = true) :
    timestampText unit s = .error f ↔ f = .badValue ∧ ∃ c ∈ s.toList, isSeparator c = true := by
  rw [← read?_eq_none_iff hs]
  unfold timestampText
  cases Binary64.read? s with
  | none => exact ⟨fun h => ⟨(Except.error.inj h).symm, rfl⟩, fun h => h.1 ▸ rfl⟩
  | some x =>
    refine iff_of_false (fun h => ?_) (fun h => nomatch h.2)
    obtain ⟨-, -, n, hn, -⟩ := timestampMoment_eq_error_iff.mp h
    cases hn

lemma isoText_eq_error_iff {s : List Char} {f : Fault} : isoText s = .error f ↔
    f = .overflow ∧ ∃ m, Moment.readIso? (spellZulu (trim s)) = some m ∧ m.Beyond := by
  unfold isoText
  cases Moment.readIso? (spellZulu (trim s)) with
  | none => exact iff_of_false nofun (fun ⟨_, _, h, _⟩ => nomatch h)
  | some m => rw [map_eq_error, Moment.universal_eq_error_iff]; simp

/-- The moment of a text in one of the layouts. -/
def layoutText (s : List Char) : Except Fault (Option Moment) :=
  match Moment.readLayout? (trim s) with
  | some m => some <$> m.universal
  | none => .ok none

/-- A text that is no timestamp is read as an ISO 8601 text or in a layout. -/
lemma dateText_none {s : String} (hs : isTimestampText s.toList = false) :
    dateText none s = (isoText s.toList >>= fun
      | some m => .ok (some m)
      | none => layoutText s.toList) := by
  unfold dateText layoutText
  dsimp only
  rw [hs, if_neg Bool.false_ne_true]
  refine bind_congr fun m? => ?_
  cases m? with
  | some m => rfl
  | none => cases Moment.readLayout? (trim s.toList) <;> rfl

/-- Layouts have no offset, so that their moments are never out of the calendar. -/
lemma layoutText_ne_error (s : List Char) (f : Fault) : layoutText s ≠ .error f := by
  unfold layoutText
  intro h
  cases hlayout : Moment.readLayout? (trim s) with
  | none => rw [hlayout] at h; cases h
  | some m =>
    rw [hlayout] at h
    have hbeyond := (Moment.universal_eq_error_iff.mp (map_eq_error.mp h)).2
    exact Moment.not_beyond_of_offset (Moment.offset_readLayout? hlayout) hbeyond

lemma dateText_none_eq_error_iff {s : String} {f : Fault} (hs : isTimestampText s.toList = false) :
    dateText none s = .error f ↔ isoText s.toList = .error f := by
  have hlayout := layoutText_ne_error s.toList f
  rw [dateText_none hs]
  generalize layoutText s.toList = layout at hlayout ⊢
  cases isoText s.toList with
  | error f' => exact Iff.rfl
  | ok m? =>
    cases m? with
    | some m => exact iff_of_false nofun nofun
    | none => exact iff_of_false hlayout nofun

/-- The formats in which a text is tried as an ISO 8601 text. -/
def TriedAsIso (format : Option DateFormat) (s : List Char) : Prop :=
  format = some .iso ∧ isIsoForm s = true ∨ format = none ∧ isTimestampText s = false

/-- The formats in which a text is tried as a timestamp. -/
def TriedAsTimestamp (format : Option DateFormat) (s : List Char) : Prop :=
  format ≠ some .iso ∧ isTimestampText s = true

/-- The values that end with a fault. -/
inductive Value.Faults : Option DateFormat → Value → Fault → Prop
  /-- A moment that a universal clock has no reading for. -/
  | shifted {format : Option DateFormat} {m : Moment} (h : m.Beyond) :
      Faults format (.moment m) .overflow
  /-- The text of such a moment. -/
  | shiftedText {format : Option DateFormat} {s : String} {m : Moment}
      (htried : TriedAsIso format s.toList)
      (hread : Moment.readIso? (spellZulu (trim s.toList)) = some m) (h : m.Beyond) :
      Faults format (.str s) .overflow
  /-- An integer beyond the binary numbers, as a number of milliseconds. -/
  | large {format : Option DateFormat} {n : ℤ}
      (hunit : format = none ∨ format = some (.timestamp .milliseconds))
      (h : Binary64.leastInfinite * 1000 ≤ n.natAbs) : Faults format (.number (.int n)) .overflow
  /-- A timestamp with an information separator around it. -/
  | separator {format : Option DateFormat} {s : String} (htried : TriedAsTimestamp format s.toList)
      {c : Char} (hc : c ∈ s.toList) (hsep : isSeparator c = true) :
      Faults format (.str s) .badValue

lemma dateText_eq_error_iff {format : Option DateFormat} {s : String} {f : Fault} :
    dateText format s = .error f ↔
      TriedAsTimestamp format s.toList ∧ f = .badValue ∧ (∃ c ∈ s.toList, isSeparator c = true) ∨
      TriedAsIso format s.toList ∧ f = .overflow ∧
        ∃ m, Moment.readIso? (spellZulu (trim s.toList)) = some m ∧ m.Beyond := by
  rw [← isoText_eq_error_iff]
  unfold TriedAsTimestamp TriedAsIso
  match format with
  | some .iso =>
    unfold dateText
    by_cases hform : isIsoForm s.toList = true
    · simp [hform]
    · simp [hform]
  | some (.timestamp unit) =>
    unfold dateText
    by_cases hs : isTimestampText s.toList = true
    · simp [hs, timestampText_eq_error_iff hs]
    · simp [hs]
  | none =>
    by_cases hs : isTimestampText s.toList = true
    · unfold dateText
      simp [hs, timestampText_eq_error_iff hs]
    · have hs' : isTimestampText s.toList = false := by simpa using hs
      simp [hs', dateText_none_eq_error_iff hs']

/-- A universal clock has no offset to it. -/
lemma offset_universal {m u : Moment} (h : some <$> m.universal = .ok (some u)) :
    u.offset = some 0 := by
  obtain ⟨u', hu, heq⟩ := map_eq_ok.mp h
  exact Option.some.inj heq ▸ (Moment.universal_eq_ok hu).2

lemma offset_isoText {s : List Char} {m : Moment} (h : isoText s = .ok (some m)) :
    m.offset = some 0 := by
  unfold isoText at h
  split at h
  · exact offset_universal h
  · cases h

lemma offset_layoutText {s : List Char} {m : Moment} (h : layoutText s = .ok (some m)) :
    m.offset = some 0 := by
  unfold layoutText at h
  split at h
  · exact offset_universal h
  · cases h

lemma offset_timestampText {unit : TimeUnit} {s : String} {m : Moment}
    (h : timestampText unit s = .ok (some m)) : m.offset = some 0 := by
  unfold timestampText at h
  split at h
  · exact offset_timestampMoment h
  · cases h

lemma offset_dateText {format : Option DateFormat} {s : String} {m : Moment}
    (h : dateText format s = .ok (some m)) : m.offset = some 0 := by
  cases format with
  | some format =>
    unfold dateText at h
    cases format with
    | iso =>
      dsimp only at h
      split at h
      · exact offset_isoText h
      · cases h
    | timestamp unit =>
      dsimp only at h
      split at h
      · exact offset_timestampText h
      · cases h
  | none =>
    by_cases hs : isTimestampText s.toList = true
    · unfold dateText at h
      dsimp only at h
      rw [if_pos hs] at h
      exact offset_timestampText h
    · rw [dateText_none (by simpa using hs)] at h
      obtain ⟨m?, hiso, h⟩ := bind_eq_ok.mp h
      cases m? with
      | none => exact offset_layoutText h
      | some m' =>
        obtain rfl := Option.some.inj (Except.ok.inj h)
        exact offset_isoText hiso

namespace Value

variable {format : Option DateFormat} {v : Value}

lemma toMoment_str (s : String) : (str s).toMoment format = dateText format s := rfl

/-- The four kinds of values end with a fault, and no others do. -/
lemma toMoment_eq_error_iff {f : Fault} : v.toMoment format = .error f ↔ v.Faults format f := by
  constructor
  · intro h
    match v with
    | .moment m =>
      obtain ⟨rfl, hbeyond⟩ := Moment.universal_eq_error_iff.mp (map_eq_error.mp h)
      exact .shifted hbeyond
    | .number x =>
      match format with
      | some .iso => cases h
      | some (.timestamp unit) =>
        obtain ⟨rfl, rfl, n, rfl, hlarge⟩ := timestampMoment_eq_error_iff.mp h
        exact .large (Or.inr rfl) hlarge
      | none =>
        have hmilli : timestampMoment .milliseconds x = .error f := h
        obtain ⟨rfl, -, n, rfl, hlarge⟩ := timestampMoment_eq_error_iff.mp hmilli
        exact .large (Or.inl rfl) hlarge
    | .str s =>
      rcases dateText_eq_error_iff.mp h with
        ⟨htried, rfl, c, hc, hsep⟩ | ⟨htried, rfl, m, hread, hm⟩
      · exact .separator htried hc hsep
      · exact .shiftedText htried hread hm
    | .null | .bool _ | .day _ | .list _ | .object _ | .pattern _ => cases h
  · intro h
    cases h with
    | shifted hbeyond => exact map_eq_error.mpr (Moment.universal_eq_error_iff.mpr ⟨rfl, hbeyond⟩)
    | shiftedText htried hread hbeyond =>
      exact dateText_eq_error_iff.mpr (Or.inr ⟨htried, rfl, _, hread, hbeyond⟩)
    | large hunit hlarge =>
      rcases hunit with rfl | rfl
      · exact timestampMoment_eq_error_iff.mpr ⟨rfl, rfl, _, rfl, hlarge⟩
      · exact timestampMoment_eq_error_iff.mpr ⟨rfl, rfl, _, rfl, hlarge⟩
    | separator htried hc hsep =>
      exact dateText_eq_error_iff.mpr (Or.inl ⟨htried, rfl, _, hc, hsep⟩)

example : (Value.int (10 ^ 400)).Faults none .overflow :=
  .large (Or.inl rfl) (by decide +kernel)

example : (Value.str "\x1c1").Faults none .badValue :=
  .separator ⟨nofun, by decide⟩ List.mem_cons_self rfl

lemma offset_toMoment {m : Moment} (h : v.toMoment format = .ok (some m)) : m.offset = some 0 := by
  match v with
  | .moment m' => exact offset_universal h
  | .day d => cases h; rfl
  | .number x =>
    match format with
    | some .iso => cases h
    | some (.timestamp unit) => exact offset_timestampMoment h
    | none =>
      have hmilli : timestampMoment .milliseconds x = .ok (some m) := h
      exact offset_timestampMoment hmilli
  | .str s => exact offset_dateText h
  | .null | .bool _ | .list _ | .object _ | .pattern _ => cases h

end Value

end InputGuard

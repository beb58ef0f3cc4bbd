import InputGuard.Number.Basic
import InputGuard.Proofs.TimestampTexts

/-!
# Integers that are read

Digits are read as an integer unless one of them is not decimal or there are too many of them. So what
is read can be written again.
-/

namespace InputGuard

open Unicode

variable {c : Char} {s : List Char}

lemma mapM_eq_none_iff {α β : Type} {f : α → Option β} {s : List α} :
    s.mapM f = none ↔ ∃ a ∈ s, f a = none := by
  induction s with
  | nil => exact iff_of_false nofun (by simp)
  | cons a rest ih =>
    simp only [List.mapM_cons, List.mem_cons, exists_eq_or_imp, ← ih]
    cases f a with
    | none => exact iff_of_true rfl (Or.inl rfl)
    | some b => cases rest.mapM f <;> simp

lemma splitOnChar_of_notMem {sep : Char} (h : sep ∉ s) : splitOnChar sep s = [s] := by
  unfold splitOnChar
  induction s with
  | nil => rfl
  | cons d rest ih =>
    obtain ⟨hd, hrest⟩ := not_or.mp (mt List.mem_cons.mpr h)
    rw [splitWhere, ih hrest, if_neg (by simpa using Ne.symm hd)]

lemma decimalValue?_eq_none : decimalValue? c = none ↔ isDecimal c = false := by
  rw [isDecimal, Option.isSome_eq_false_iff, Option.isNone_iff_eq_none]

/-- Digits that no decimal numeral is written with are neither basic Latin nor blank. -/
lemma plainNumeralChar?_eq_none (hdigit : isDigit c = true) (h : isDecimal c = false) :
    plainNumeralChar? c = none := by
  have hother : ∃ r ∈ otherDigitRanges, r.1 ≤ c.toNat ∧ c.toNat ≤ r.2 := by
    rw [isDigit, h, Bool.false_or, inRanges, List.any_eq_true] at hdigit
    simpa only [Bool.and_eq_true, decide_eq_true_eq] using hdigit
  obtain ⟨r, hr, hlow, hhigh⟩ := hother
  have hhalf : ∀ r ∈ otherDigitRanges, 128 ≤ r.1 := by decide
  have hdisjoint : ∀ r ∈ otherDigitRanges, ∀ b ∈ blankRanges, r.2 < b.1 ∨ b.2 < r.1 := by decide
  have hblank : isBlank c = false := by
    rw [← Bool.not_eq_true, isBlank_iff]
    rintro ⟨b, hb, hblow, hbhigh⟩
    have hapart := hdisjoint r hr b hb
    omega
  have hbasic := hhalf r hr
  rw [plainNumeralChar?, if_neg (by omega), hblank, if_neg Bool.false_ne_true,
    decimalValue?_eq_none.mpr h]
  rfl

/-- Decimal digits are a numeral, which is read unless there are too many of them. -/
lemma readInteger?_of_isDecimal (hne : s ≠ []) (hs : ∀ c ∈ s, isDecimal c = true) :
    readInteger? (String.ofList s) =
      if integerDigitLimit < s.length then none else some (digitsValue (s.map latin) : ℤ) := by
  have hdigits : ∀ d ∈ s.map latin, d.isDigit = true :=
    List.forall_mem_map.mpr fun c hc => (plainNumeralChar?_of_isDecimal (hs c hc)).2
  have hne' : s.map latin ≠ [] := mt List.map_eq_nil_iff.mp hne
  have hmap : s.mapM plainNumeralChar? = some (s.map latin) :=
    mapM_eq_map fun c hc => (plainNumeralChar?_of_isDecimal (hs c hc)).1
  have htrim : trimWhere isNumeralBlank ([] ++ (s.map latin ++ [])) = s.map latin :=
    trimWhere_append (List.forall_mem_nil _) (List.forall_mem_nil _)
      (fun d hd => not_isNumeralBlank_of_isDigit (hdigits d hd)) hne'
  rw [List.nil_append, List.append_nil] at htrim
  have hplain : plainNumeral? (String.ofList s) = some (s.map latin) := by
    rw [plainNumeral?, String.toList_ofList, hmap, Option.map_some, htrim]
  have hsign : splitSign (s.map latin) = (false, s.map latin) := by
    obtain ⟨d, rest, hd⟩ := List.exists_cons_of_ne_nil hne'
    have hfirst : d.isDigit = true := hdigits d (hd ▸ List.mem_cons_self)
    rw [hd]
    exact splitSign_append (Or.inl rfl) rfl hfirst
  have hjoined : joinedDigits? (s.map latin) = some (s.map latin) := by
    have hmark : '_' ∉ s.map latin := fun h => Bool.noConfusion (hdigits _ h)
    have hall : (s.map latin).all Char.isDigit = true := List.all_eq_true.mpr hdigits
    rw [joinedDigits?, splitOnChar_of_notMem hmark]
    simp [hall, hne]
  rw [readInteger?, hplain]
  change (do
    let digits ← joinedDigits? (splitSign (s.map latin)).2
    if digits.length > integerDigitLimit then none
    else
      let n : ℤ := digitsValue digits
      return if (splitSign (s.map latin)).1 then -n else n) = _
  rw [hsign, hjoined]
  simp

/-- Digits are read as an integer unless one of them is not decimal or there are too many. -/
lemma readInteger?_eq_none_iff (hne : s ≠ []) (hs : ∀ c ∈ s, isDigit c = true) :
    readInteger? (String.ofList s) = none ↔
      (∃ c ∈ s, isDecimal c = false) ∨ integerDigitLimit < s.length := by
  by_cases hother : ∃ c ∈ s, isDecimal c = false
  · obtain ⟨c, hc, hdecimal⟩ := hother
    have hplain : plainNumeral? (String.ofList s) = none := by
      rw [plainNumeral?, String.toList_ofList, Option.map_eq_none_iff, mapM_eq_none_iff]
      exact ⟨c, hc, plainNumeralChar?_eq_none (hs c hc) hdecimal⟩
    rw [readInteger?, hplain]
    exact iff_of_true rfl (Or.inl ⟨c, hc, hdecimal⟩)
  · have hdecimal : ∀ c ∈ s, isDecimal c = true := by simpa using hother
    rw [readInteger?_of_isDecimal hne hdecimal]
    simp [hother]

lemma isDigits_of_joinedDigits? {cs digits : List Char} (h : joinedDigits? cs = some digits) :
    IsDigits digits := by
  unfold joinedDigits? at h
  dsimp only at h
  split at h
  · rename_i hgroups
    obtain rfl := Option.some.inj h
    intro c hc
    obtain ⟨group, hgroup, hmem⟩ := List.mem_flatten.mp hc
    have hdigits := (Bool.and_eq_true_iff.mp (List.all_eq_true.mp hgroups group hgroup)).2
    exact List.all_eq_true.mp hdigits c hmem
  · cases h

/-- An integer that can be read can be written. -/
lemma hasText_readInteger? {s : String} {n : ℤ} (h : readInteger? s = some n) :
    (Number.int n).hasText = true := by
  obtain ⟨cs, -, h⟩ := Option.bind_eq_some_iff.mp h
  obtain ⟨digits, hdigits, h⟩ := Option.bind_eq_some_iff.mp h
  dsimp only at h
  split at h
  · cases h
  · rename_i hlength
    have habs : n.natAbs = digitsValue digits := by
      obtain rfl := Option.some.inj h
      split <;> simp
    refine decide_eq_true ?_
    rw [habs]
    exact digitCount_digitsValue_le (by decide) (isDigits_of_joinedDigits? hdigits)
      (not_lt.mp hlength)

end InputGuard

import InputGuard.Format.Address
import InputGuard.Format.Card
import InputGuard.Format.Guid
import InputGuard.Proofs.IntegerNumerals
import InputGuard.Proofs.Outcomes

/-!
# Faults of formats

Some formats end with a fault: card numbers and network parts where a digit is read that no decimal
numeral is written with, network parts with too many digits, and domain names and addresses whose
options have the wrong type. Wherever the digit of a GUID's version is looked for, there is one.
-/

namespace InputGuard

open Unicode

variable {c : Char} {s : List Char} {f : Fault}

namespace Format

lemma isCardNumber_eq_error_iff : isCardNumber s = .error f ↔
    f = .badValue ∧ (∀ c ∈ s, isDigit c = true) ∧ ∃ c ∈ s, isDecimal c = false := by
  have hvalues : s.mapM decimalValue? = none ↔ ∃ c ∈ s, isDecimal c = false := by
    simp only [mapM_eq_none_iff, decimalValue?_eq_none]
  rw [← hvalues, ← List.all_eq_true]
  unfold isCardNumber
  cases s with
  | nil => exact iff_of_false nofun (by simp)
  | cons c rest =>
    cases (c :: rest).all isDigit with
    | false => exact iff_of_false nofun (by simp)
    | true => cases (c :: rest).mapM decimalValue? <;> simp [eq_comm]

/-- Digits that are no numeral. -/
def UnreadableDigits (s : List Char) : Prop :=
  s ≠ [] ∧ (∀ c ∈ s, isDigit c = true) ∧
    ((∃ c ∈ s, isDecimal c = false) ∨ integerDigitLimit < s.length)

lemma isNetworkLength_eq_error_iff {bits : ℕ} :
    isNetworkLength bits s = .error f ↔ f = .badValue ∧ UnreadableDigits s := by
  unfold isNetworkLength UnreadableDigits
  by_cases hs : s ≠ [] ∧ ∀ c ∈ s, isDigit c = true
  · have hdigits : (s.isEmpty || !s.all isDigit) = false := by simpa using hs
    rw [hdigits, if_neg Bool.false_ne_true, ← readInteger?_eq_none_iff hs.1 hs.2]
    cases readInteger? (String.ofList s) with
    | none =>
      refine ⟨fun h => ⟨(Except.error.inj h).symm, hs.1, hs.2, rfl⟩, ?_⟩
      rintro ⟨rfl, -⟩
      rfl
    | some n => exact iff_of_false nofun (fun h => nomatch h.2.2.2)
  · have hdigits : (s.isEmpty || !s.all isDigit) = true := by
      rw [← Bool.not_eq_false]
      simpa using hs
    rw [hdigits, if_pos rfl]
    exact iff_of_false nofun (fun h => hs ⟨h.2.1, h.2.2.1⟩)

/-- Network parts that are looked at and cannot be read: the address before the slash is one of a
version that is asked for, and a network part is not forbidden. -/
def AddressOptions.Faults (o : AddressOptions) (s : List Char) : Prop :=
  ∃ length version, (partitionOnChar '/' s).2 = some length ∧ o.cidr ≠ .forbidden ∧
    addressVersion? (partitionOnChar '/' s).1 = some version ∧ version ∈ o.versions ∧
      UnreadableDigits length

lemma isAddress_eq_error_iff {o : AddressOptions} :
    isAddress o s = .error f ↔ f = .badValue ∧ o.Faults s := by
  unfold isAddress AddressOptions.Faults
  obtain ⟨address, network⟩ := partitionOnChar '/' s
  cases network with
  | none =>
    refine iff_of_false ?_ (by simp)
    dsimp only
    split
    · nofun
    · split
      · nofun
      · split
        · nofun
        · split
          · nofun
          · split <;> nofun
  | some length =>
    by_cases hforbidden : o.cidr = .forbidden
    · simp [hforbidden]
    · cases hversion : addressVersion? address with
      | none => simp [hforbidden, hversion]
      | some version =>
        by_cases hmem : version ∈ o.versions
        · simp [hforbidden, hversion, hmem, isNetworkLength_eq_error_iff]
        · simp [hforbidden, hversion, hmem]

/-- Domain names whose labels are counted and compared with what is no number. -/
def DomainOptions.Faults (o : DomainOptions) (s : List Char) : Prop :=
  s ≠ [] ∧ s.length ≤ 253 ∧ (o.least = .incomparable ∨
    (∃ x, o.least = .number x ∧ (Number.int (labels s).length).lt x = false) ∧
      o.most = some .incomparable)

lemma isDomain_eq_error_iff {o : DomainOptions} :
    isDomain o s = .error f ↔ f = .wrongType ∧ o.Faults s := by
  obtain ⟨allowUnicode, least, most⟩ := o
  unfold isDomain DomainOptions.Faults
  by_cases hs : s ≠ [] ∧ s.length ≤ 253
  · have hcounted : (s.isEmpty || decide (253 < s.length)) = false := by simpa using hs
    have hfault : (.error .wrongType : Except Fault Bool) = .error f ↔ f = .wrongType := by
      rw [Except.error.injEq, eq_comm]
    dsimp only
    rw [hcounted, if_neg Bool.false_ne_true]
    match least with
    | .incomparable =>
      refine hfault.trans ?_
      simp [hs]
    | .number x =>
      rw [LabelBound.exceeds]
      cases hless : (Number.int (labels s).length).lt x with
      | true => exact iff_of_false nofun (by simp [hless])
      | false =>
        match most with
        | none => exact iff_of_false nofun (by simp)
        | some .incomparable =>
          refine hfault.trans ?_
          simp [hs, hless]
        | some (.number y) =>
          dsimp only [LabelBound.isExceededBy]
          cases y.lt (.int (labels s).length) <;> exact iff_of_false nofun (by simp)
  · have hcounted : (s.isEmpty || decide (253 < s.length)) = true := by
      rw [← Bool.not_eq_false]
      simpa using hs
    rw [hcounted]
    exact iff_of_false nofun (fun h => hs ⟨h.2.1, h.2.2.1⟩)

/-- Addresses whose domain name is counted and compared with what is no number. -/
def EmailOptions.AddressFaults (o : EmailOptions) (s : List Char) : Prop :=
  (o.ignoreLength = true ∨ s.length ≤ 254) ∧ ∃ localPart domain,
    splitAddress? s = some (localPart, domain) ∧ localPart ≠ [] ∧ localPart.length ≤ 64 ∧
      isLocalPart localPart = true ∧ o.domain.Faults domain

lemma isEmail_eq_error_iff {o : EmailOptions} :
    isEmail o s = .error f ↔ f = .wrongType ∧ o.AddressFaults s := by
  unfold isEmail EmailOptions.AddressFaults
  by_cases hlength : o.ignoreLength = true ∨ s.length ≤ 254
  · have hshort : (!o.ignoreLength && decide (254 < s.length)) = false := by
      rw [← Bool.not_eq_true]
      simpa [or_iff_not_imp_left] using hlength
    rw [hshort, if_neg Bool.false_ne_true]
    cases hsplit : splitAddress? s with
    | none => exact iff_of_false nofun (by simp)
    | some parts =>
      obtain ⟨localPart, domain⟩ := parts
      dsimp only
      by_cases hlocal : localPart ≠ [] ∧ localPart.length ≤ 64 ∧ isLocalPart localPart = true
      · have hvalid : (localPart.isEmpty || decide (64 < localPart.length) ||
            !isLocalPart localPart) = false := by
          simpa [and_assoc] using hlocal
        rw [hvalid, if_neg Bool.false_ne_true, isDomain_eq_error_iff]
        simp [hlength, hlocal]
      · have hinvalid : (localPart.isEmpty || decide (64 < localPart.length) ||
            !isLocalPart localPart) = true := by
          rw [← Bool.not_eq_false]
          simpa [and_assoc] using hlocal
        rw [hinvalid, if_pos rfl]
        refine iff_of_false nofun ?_
        rintro ⟨-, -, _, _, heq, hne, hle, hpart, -⟩
        cases heq
        exact hlocal ⟨hne, hle, hpart⟩
  · have hlong : (!o.ignoreLength && decide (254 < s.length)) = true := by
      rw [← Bool.not_eq_false]
      simpa [or_iff_not_imp_left] using hlength
    rw [hlong, if_pos rfl]
    exact iff_of_false nofun (fun h => hlength h.2.1)

/-- A list of addresses with no text between them, or one of its addresses. -/
def EmailOptions.Faults (o : EmailOptions) (s : List Char) : Prop :=
  (o.multiple = true ∧ o.separator = none) ∨
    ∃ parts, addresses o s = .ok parts ∧ ∃ part ∈ parts, o.AddressFaults part

section Filters

variable {ε α : Type} {p : α → Except ε Bool} {items : List α} {e : ε}

lemma exists_of_filterM_error (h : items.filterM p = .error e) : ∃ a ∈ items, p a = .error e := by
  have hkept : ∀ kept, items.filterAuxM p kept = .error e → ∃ a ∈ items, p a = .error e := by
    clear h
    induction items with
    | nil => exact nofun
    | cons a rest ih =>
      intro kept h
      rcases bind_eq_error.mp h with h | ⟨keep, -, h⟩
      · exact ⟨a, List.mem_cons_self, h⟩
      · obtain ⟨b, hb, hfails⟩ := ih _ h
        exact ⟨b, List.mem_cons_of_mem a hb, hfails⟩
  rcases bind_eq_error.mp h with h | ⟨kept, -, h⟩
  · exact hkept [] h
  · cases h

lemma filterM_fails (h : ∃ a ∈ items, ∃ e, p a = .error e) : ∃ e, items.filterM p = .error e := by
  have hkept : ∀ kept, ∃ e, items.filterAuxM p kept = .error e := by
    induction items with
    | nil => simp at h
    | cons a rest ih =>
      intro kept
      rw [List.filterAuxM]
      cases ha : p a with
      | error e => exact ⟨e, rfl⟩
      | ok keep =>
        simp only [List.mem_cons, exists_eq_or_imp, ha, reduceCtorEq, exists_false, false_or] at h
        exact ih h _
  obtain ⟨e, he⟩ := hkept []
  exact ⟨e, bind_eq_error.mpr (Or.inl he)⟩

end Filters

lemma addresses_eq_error_iff {o : EmailOptions} : addresses o s = .error f ↔
    f = .wrongType ∧ o.multiple = true ∧ o.separator = none := by
  unfold addresses
  cases o.multiple with
  | false => exact iff_of_false nofun (by simp)
  | true =>
    cases o.separator with
    | none => simp [@eq_comm _ Fault.wrongType]
    | some separator => exact iff_of_false nofun (by simp)

lemma invalidAddresses_eq_error_iff {o : EmailOptions} :
    invalidAddresses o s = .error f ↔ f = .wrongType ∧ o.Faults s := by
  have hpart : ∀ part f, (do return !(← isEmail o part) : Except Fault Bool) = .error f ↔
      f = .wrongType ∧ o.AddressFaults part := by
    intro part f
    rw [bind_eq_error, isEmail_eq_error_iff]
    exact or_iff_left (fun ⟨_, _, h⟩ => nomatch h)
  have hfilter : ∀ (parts : List (List Char)) f,
      parts.filterM (fun part => do return !(← isEmail o part)) = .error f →
        f = .wrongType ∧ ∃ part ∈ parts, o.AddressFaults part := by
    intro parts f h
    obtain ⟨part, hmem, hfails⟩ := exists_of_filterM_error h
    obtain ⟨hf, hfaults⟩ := (hpart part f).mp hfails
    exact ⟨hf, part, hmem, hfaults⟩
  unfold invalidAddresses
  rw [bind_eq_error, addresses_eq_error_iff, EmailOptions.Faults]
  constructor
  · rintro (⟨rfl, hseparator⟩ | ⟨parts, hparts, h⟩)
    · exact ⟨rfl, Or.inl hseparator⟩
    · obtain ⟨rfl, hfaults⟩ := hfilter parts f h
      exact ⟨rfl, Or.inr ⟨parts, hparts, hfaults⟩⟩
  · rintro ⟨rfl, hseparator | ⟨parts, hparts, part, hmem, hfaults⟩⟩
    · exact Or.inl ⟨rfl, hseparator⟩
    · have hfails := (hpart part .wrongType).mpr ⟨rfl, hfaults⟩
      obtain ⟨f, hf⟩ := filterM_fails
        (p := fun part => do return !(← isEmail o part)) ⟨part, hmem, _, hfails⟩
      obtain ⟨rfl, -⟩ := hfilter parts f hf
      exact Or.inr ⟨parts, hparts, hf⟩

lemma sum_le_hexGroups {sep : List Char} {sizes : List ℕ} (h : hexGroups sep sizes s = true) :
    sizes.sum ≤ (s.filter isHexDigit).length := by
  induction sizes generalizing s with
  | nil => exact Nat.zero_le _
  | cons n sizes ih =>
    simp only [hexGroups, Bool.and_eq_true, beq_iff_eq, List.all_eq_true] at h
    obtain ⟨-, ⟨hlength, hdigits⟩, hrest⟩ := h
    have hgroup : (((s.drop sep.length).take n).filter isHexDigit).length = n := by
      rw [List.filter_eq_self.mpr hdigits, hlength]
    calc (n :: sizes).sum = n + sizes.sum := List.sum_cons
      _ ≤ (((s.drop sep.length).take n).filter isHexDigit).length +
          (((s.drop sep.length).drop n).filter isHexDigit).length := by
        rw [hgroup]
        exact Nat.add_le_add_left (ih hrest) n
      _ = ((s.drop sep.length).filter isHexDigit).length := by
        rw [← List.length_append, ← List.filter_append, List.take_append_drop]
      _ ≤ (s.filter isHexDigit).length :=
        ((List.drop_sublist sep.length s).filter isHexDigit).length_le

lemma dropFinalLineFeed_sublist (s : List Char) : (dropFinalLineFeed s).Sublist s := by
  induction s using dropFinalLineFeed.induct with
  | case1 => exact List.Sublist.refl _
  | case2 => exact List.nil_sublist _
  | case3 c rest _ ih =>
    rw [dropFinalLineFeed]
    · exact ih.cons_cons c
    · assumption

/-- A GUID has a thirteenth hexadecimal digit, whatever separates its groups. -/
lemma exists_versionDigit {sep : GuidSeparator} (h : isGuidBody sep s = true) :
    ∃ c, (s.filter isHexDigit)[12]? = some c := by
  simp only [isGuidBody, Bool.and_eq_true, beq_iff_eq, List.all_eq_true] at h
  obtain ⟨⟨hlength, hdigits⟩, hgroups⟩ := h
  split at hgroups
  · have hrest := sum_le_hexGroups hgroups
    have hfirst : (((dropFinalLineFeed s).take 8).filter isHexDigit).length = 8 := by
      rw [List.filter_eq_self.mpr hdigits, hlength]
    have hwhole : (((dropFinalLineFeed s).take 8).filter isHexDigit).length +
        (((dropFinalLineFeed s).drop 8).filter isHexDigit).length =
          ((dropFinalLineFeed s).filter isHexDigit).length := by
      rw [← List.length_append, ← List.filter_append, List.take_append_drop]
    have hle := ((dropFinalLineFeed_sublist s).filter isHexDigit).length_le
    have hlt : 12 < (s.filter isHexDigit).length := by
      have hsum : [4, 4, 4, 12].sum = 24 := rfl
      omega
    exact ⟨_, List.getElem?_eq_getElem hlt⟩
  · cases hgroups

end Format

end InputGuard

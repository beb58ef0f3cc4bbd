import InputGuard.Proofs.DomainNames
import InputGuard.Proofs.FormatFaults
import InputGuard.Proofs.GuidShapes
import InputGuard.Proofs.SeparatedTexts

/-!
# Mail addresses

A mail address is a local part, an `@` and a domain name. The last `@` parts them, for none occurs
in a domain name. The rule trims what it checks, also where this is the whole text, and a line feed
may follow the local part; so it accepts more than well-formed addresses. A list of addresses is
judged address by address.
-/

namespace InputGuard

open Unicode

namespace Format

open StringRule (domainOptions emailOptions)

/-- Runs of permitted characters between dots. -/
def LocalForm (t : List Char) : Prop :=
  ∃ atoms : List (List Char), atoms ≠ [] ∧ t = ['.'].intercalate atoms ∧
    ∀ atom ∈ atoms, ConsistsOf isAtomChar atom

/-- A local part, an `@` and a name, of a limited length. `proper` takes off what does not count. -/
def MailText (options : Entries) (proper : List Char → List Char) (isName : List Char → Prop)
    (s : List Char) : Prop :=
  ((Value.option "ignore_length" options).truthy = true ∨ s.length ≤ 254) ∧
    ∃ localPart name, s = localPart ++ '@' :: name ∧ localPart ≠ [] ∧ localPart.length ≤ 64 ∧
      LocalForm (proper localPart) ∧ isName name

variable {options : Entries} {s t name localPart : List Char} {o : EmailOptions}

lemma mem_intercalate {c sep : Char} {parts : List (List Char)} (h : c ∈ [sep].intercalate parts) :
    c = sep ∨ ∃ part ∈ parts, c ∈ part := by
  cases parts with
  | nil => cases h
  | cons part parts =>
    rw [intercalate_cons, List.mem_append, List.mem_flatMap] at h
    rcases h with h | ⟨part', hpart', h⟩
    · exact Or.inr ⟨part, List.mem_cons_self, h⟩
    · rcases List.mem_append.mp h with h | h
      · exact Or.inl (List.mem_singleton.mp h)
      · exact Or.inr ⟨part', List.mem_cons_of_mem _ hpart', h⟩

lemma LocalForm.mem (h : LocalForm t) : ∀ c ∈ t, c = '.' ∨ isAtomChar c = true := by
  obtain ⟨atoms, -, rfl, hatoms⟩ := h
  intro c hc
  rcases mem_intercalate hc with rfl | ⟨atom, hatom, hc⟩
  · exact Or.inl rfl
  · exact Or.inr ((hatoms atom hatom).2 c hc)

lemma LocalForm.ne_nil (h : LocalForm t) : t ≠ [] := by
  obtain ⟨atoms, hne, rfl, hatoms⟩ := h
  obtain ⟨atom, atoms, rfl⟩ := List.exists_cons_of_ne_nil hne
  rw [intercalate_cons]
  exact List.append_ne_nil_of_left_ne_nil (hatoms atom List.mem_cons_self).1 _

lemma LocalForm.notMem_lineFeed (h : LocalForm t) : '\n' ∉ t := fun hmem =>
  (h.mem _ hmem).elim (by decide) (by decide)

lemma isLocalPart_iff : isLocalPart s = true ↔ LocalForm (dropFinalLineFeed s) := by
  unfold isLocalPart
  generalize dropFinalLineFeed s = t
  have hatom : ∀ atom : List Char, (!atom.isEmpty && atom.all isAtomChar) = true ↔
      ConsistsOf isAtomChar atom := by
    intro atom
    rw [Bool.and_eq_true, Bool.not_eq_true', List.isEmpty_eq_false_iff, List.all_eq_true]
    exact Iff.rfl
  simp only [List.all_eq_true, hatom, splitOnChar_eq_splitOn]
  constructor
  · intro h
    exact ⟨t.splitOn '.', List.splitOn_ne_nil _ _, (List.intercalate_splitOn _).symm, h⟩
  · rintro ⟨atoms, hne, rfl, hatoms⟩
    rw [List.splitOn_intercalate '.' (fun atom h => (hatoms atom h).notMem (by decide)) hne]
    exact hatoms

section Patterns

open Pattern

def atomItems : List SetItem := alphanumItems "!#$%&'*+/=?^_\x60\x7b|\x7d~-".toList

def localPattern : Pattern :=
  ⟨"^[A-Za-z0-9!#$%&'*+/=?^_\x60\x7b|\x7d~-]+(\\.[A-Za-z0-9!#$%&'*+/=?^_\x60\x7b|\x7d~-]+)*$", .none,
    .sequence (.anchor .textStart) (.sequence (setRun atomItems) (.sequence
      (.repeated .greedy 0 none (.group 1 (.sequence (charSingle '.') (setRun atomItems))))
      (.anchor .finalEnd)))⟩

lemma read_localPattern : Pattern.read localPattern.source .none = .ok localPattern := by
  decide +kernel

/-- An atom, and more of them after dots. -/
lemma localForm_iff {w : List Char} : LocalForm w ↔
    ∃ first others, w = first ++ others ∧ ConsistsOf isAtomChar first ∧
      ∃ parts : List (List Char), others = parts.flatten ∧
        ∀ part ∈ parts, ∃ dot atom, part = dot ++ atom ∧ dot = ['.'] ∧
          ConsistsOf isAtomChar atom := by
  constructor
  · rintro ⟨atoms, hne, rfl, hatoms⟩
    obtain ⟨first, atoms, rfl⟩ := List.exists_cons_of_ne_nil hne
    obtain ⟨hfirst, hatoms⟩ := List.forall_mem_cons.mp hatoms
    rw [intercalate_cons]
    refine ⟨first, _, rfl, hfirst, atoms.map (['.'] ++ ·), List.flatMap_def, ?_⟩
    rw [List.forall_mem_map]
    exact fun atom hatom => ⟨['.'], atom, rfl, rfl, hatoms atom hatom⟩
  · rintro ⟨first, _, rfl, hfirst, parts, rfl, hparts⟩
    have htail : ∀ part ∈ parts, part = ['.'] ++ part.tail ∧ ConsistsOf isAtomChar part.tail := by
      intro part hpart
      obtain ⟨_, atom, rfl, rfl, hatom⟩ := hparts part hpart
      exact ⟨rfl, hatom⟩
    refine ⟨first :: parts.map List.tail, List.cons_ne_nil _ _, ?_, ?_⟩
    · have hsame : parts.map (fun part => ['.'] ++ part.tail) = parts :=
        (List.map_congr_left fun part hpart => (htail part hpart).1.symm).trans (List.map_id parts)
      rw [intercalate_cons, List.flatMap_map, List.flatMap_def, hsame]
    · rw [List.forall_mem_cons, List.forall_mem_map]
      exact ⟨hfirst, fun part hpart => (htail part hpart).2⟩

lemma spells_local : Spells (.sequence (setRun atomItems) (.repeated .greedy 0 none
    (.group 1 (.sequence (charSingle '.') (setRun atomItems))))) LocalForm := by
  have hatom : Spells (setRun atomItems) (ConsistsOf isAtomChar) :=
    spells_run (alphanumItems_holds _)
  refine (hatom.sequence ((((spells_char '.').sequence hatom).group 1).repeated .greedy 0
    none)).congr fun w => Iff.trans ?_ localForm_iff.symm
  simp only [Nat.zero_le, true_and, reduceCtorEq, false_implies, implies_true]

/-- The local parts are those that the pattern finds. -/
theorem isLocalPart_eq_search (s : List Char) :
    isLocalPart s = localPattern.search (String.ofList s) := by
  rw [Bool.eq_iff_iff, isLocalPart_iff]
  exact (spells_local.search_iff (p := localPattern) (fun _ h => h.notMem_lineFeed) rfl
    fun _ => Spells.reads_assoc).symm

end Patterns

lemma splitAddress?_of_notMem (h : '@' ∉ s) : splitAddress? s = none := by
  unfold splitAddress?
  rw [partitionOnChar_of_notMem (by rwa [List.mem_reverse])]

lemma splitAddress?_append (h : '@' ∉ name) (localPart : List Char) :
    splitAddress? (localPart ++ '@' :: name) = some (localPart, name) := by
  have hreverse : (localPart ++ '@' :: name).reverse =
      name.reverse ++ '@' :: localPart.reverse := by
    simp
  unfold splitAddress?
  rw [hreverse, partitionOnChar_append (by rwa [List.mem_reverse])]
  simp only [List.reverse_reverse]

/-- Either there is no `@`, or the last one parts the text. -/
lemma exists_address (s : List Char) :
    '@' ∉ s ∨ ∃ localPart name, '@' ∉ name ∧ s = localPart ++ '@' :: name := by
  by_cases h : '@' ∈ s
  · obtain ⟨name, localPart, heq, hname⟩ := List.eq_append_cons_of_mem (List.mem_reverse.mpr h)
    refine Or.inr ⟨localPart.reverse, name.reverse, by rwa [List.mem_reverse], ?_⟩
    rw [← List.reverse_reverse s, heq]
    simp
  · exact Or.inl h

/-- No domain name has an `@` in it. -/
lemma notMem_at_of_isDomain (h : isDomain (domainOptions options) s = .ok true) : '@' ∉ s := by
  obtain ⟨dots, -, parts, top, rfl, hparts, -⟩ := isDomain_iff.mp h
  intro hmem
  rcases List.mem_append.mp hmem with hmem | hmem
  · rcases mem_intercalate hmem with hdot | ⟨part, hpart, hmem⟩
    · exact absurd hdot (by decide)
    · have hend : ∀ u, isLabelEnd u '@' = false := by decide
      have hnot := (hparts part hpart).notMem (hend _) (by decide)
      rcases eq_dropFinalLineFeed_or part with heq | heq
      · rw [heq] at hmem
        exact hnot hmem
      · rw [heq, List.mem_append] at hmem
        exact hmem.elim hnot (by decide)
  · exact absurd (List.eq_of_mem_replicate hmem) (by decide)

lemma unless_eq_true_iff {refused : Bool} {x : Except Fault Bool} :
    (if refused then .ok false else x) = .ok true ↔ refused = false ∧ x = .ok true := by
  cases refused <;> simp

lemma isEmail_iff : isEmail (emailOptions options) s = .ok true ↔
    MailText options dropFinalLineFeed (isDomain (domainOptions options) · = .ok true) s := by
  have hlength : (!(emailOptions options).ignoreLength && decide (254 < s.length)) = false ↔
      (Value.option "ignore_length" options).truthy = true ∨ s.length ≤ 254 := by
    rw [Bool.and_eq_false_iff, Bool.not_eq_false', decide_eq_false_iff_not, not_lt]
    exact Iff.rfl
  have hlocal : ∀ localPart : List Char, (localPart.isEmpty || decide (64 < localPart.length) ||
      !isLocalPart localPart) = false ↔ localPart ≠ [] ∧ localPart.length ≤ 64 ∧
        LocalForm (dropFinalLineFeed localPart) := by
    intro localPart
    rw [Bool.or_eq_false_iff, Bool.or_eq_false_iff, List.isEmpty_eq_false_iff,
      decide_eq_false_iff_not, not_lt, Bool.not_eq_false', isLocalPart_iff, and_assoc]
  unfold isEmail MailText
  rw [unless_eq_true_iff, hlength]
  refine and_congr_right fun _ => ?_
  constructor
  · intro h
    rcases exists_address s with hnone | ⟨localPart, name, hname, rfl⟩
    · rw [splitAddress?_of_notMem hnone] at h
      cases h
    · rw [splitAddress?_append hname] at h
      obtain ⟨hvalid, hdomain⟩ := unless_eq_true_iff.mp h
      obtain ⟨hne, hle, hform⟩ := (hlocal localPart).mp hvalid
      exact ⟨localPart, name, rfl, hne, hle, hform, hdomain⟩
  · rintro ⟨localPart, name, rfl, hne, hle, hform, hdomain⟩
    rw [splitAddress?_append (notMem_at_of_isDomain hdomain)]
    exact unless_eq_true_iff.mpr ⟨(hlocal localPart).mpr ⟨hne, hle, hform⟩, hdomain⟩

lemma exists_before_last (sep : Char) (parts : List (List Char)) :
    ∃ before, ∀ last, [sep].intercalate (parts ++ [last]) = before ++ last := by
  cases parts with
  | nil => exact ⟨[], fun last => List.intercalate_singleton⟩
  | cons part parts =>
    refine ⟨part ++ (parts.flatMap ([sep] ++ ·) ++ [sep]), fun last => ?_⟩
    rw [List.cons_append, intercalate_cons, List.flatMap_append, List.flatMap_singleton,
      List.append_assoc, List.append_assoc]

/-- The visible characters of basic Latin. -/
def isVisible (c : Char) : Bool := 33 ≤ c.toNat && c.toNat ≤ 126

lemma isVisible_iff {c : Char} : isVisible c = true ↔ 33 ≤ c.toNat ∧ c.toNat ≤ 126 := by
  unfold isVisible
  rw [Bool.and_eq_true, decide_eq_true_eq, decide_eq_true_eq]

lemma not_isBlank_of_isVisible {c : Char} (h : isVisible c = true) : isBlank c = false := by
  have hranges : ∀ r ∈ blankRanges, r.2 < 33 ∨ 126 < r.1 := by decide
  obtain ⟨hlow, hhigh⟩ := isVisible_iff.mp h
  rw [← Bool.not_eq_true, isBlank_iff]
  rintro ⟨r, hr, hfrom, hto⟩
  have := hranges r hr
  omega

lemma isVisible_of_isAlphanum {c : Char} (h : c.isAlphanum = true) : isVisible c = true := by
  have hcodes := isAlphanum_iff.mp h
  exact isVisible_iff.mpr ⟨by omega, by omega⟩

lemma isVisible_of_isAtomChar {c : Char} (h : isAtomChar c = true) : isVisible c = true := by
  have hothers : ∀ d ∈ "!#$%&'*+/=?^_\x60\x7b|\x7d~-".toList, isVisible d = true :=
    List.all_eq_true.mp (by decide)
  rcases Bool.or_eq_true_iff.mp h with h | h
  · exact isVisible_of_isAlphanum h
  · exact hothers c (List.contains_iff_mem.mp h)

lemma LocalForm.visible (h : LocalForm t) : ∀ c ∈ t, isVisible c = true := by
  intro c hc
  rcases h.mem c hc with rfl | hc
  · decide
  · exact isVisible_of_isAtomChar hc

lemma TopForm.visible (h : TopForm t) : ∀ c ∈ t, isVisible c = true := by
  have hlead : ∀ c ∈ "xn--".toList, isVisible c = true := List.all_eq_true.mp (by decide)
  have hhyphen : isVisible '-' = true := by decide
  intro c hc
  rcases h with ⟨-, -, hall⟩ | ⟨more, rfl, -, -, hall⟩
  · refine isVisible_of_isAlphanum ?_
    rw [Char.isAlphanum, hall c hc, Bool.true_or]
  · rcases List.mem_append.mp hc with hc | hc
    · exact hlead c hc
    · exact (hall c hc).elim isVisible_of_isAlphanum fun hc => hc ▸ hhyphen

lemma TopForm.ne_nil (h : TopForm t) : t ≠ [] := by
  rintro rfl
  rcases h with ⟨hlength, -⟩ | ⟨more, heq, -⟩
  · exact absurd hlength (by decide)
  · cases heq

/-- A name that ends with a label and not with a dot loses its line feed with the label. -/
lemma exists_last_label (h : DomainText options dropFinalLineFeed 0 name) :
    ∃ before last, TopForm last ∧ dropFinalLineFeed name = before ++ last ∧
      DomainText options dropFinalLineFeed 0 (before ++ last) := by
  obtain ⟨hlength, parts, top, hname, hparts, hcount, htop, hform⟩ := h
  rw [List.replicate_zero, List.append_nil] at hname
  obtain ⟨front, rfl⟩ := List.getLast?_eq_some_iff.mp htop
  obtain ⟨before, hbefore⟩ := exists_before_last '.' front
  rw [hbefore] at hname
  have hlast : dropFinalLineFeed (dropFinalLineFeed top) = dropFinalLineFeed top :=
    dropFinalLineFeed_of_ne (getLast?_ne_lineFeed hform.notMem_lineFeed)
  have hdrop : dropFinalLineFeed name = before ++ dropFinalLineFeed top := by
    rcases eq_dropFinalLineFeed_or top with htop | htop
    · rw [hname, htop, hlast]
      refine dropFinalLineFeed_of_ne ?_
      rw [List.getLast?_append_of_ne_nil _ hform.ne_nil]
      exact getLast?_ne_lineFeed hform.notMem_lineFeed
    · rw [hname, htop, ← List.append_assoc, dropFinalLineFeed_append, dropFinalLineFeed_append]
  have hshorter := (dropFinalLineFeed_sublist name).length_le
  rw [hdrop] at hshorter
  refine ⟨before, _, hform, hdrop, hshorter.trans hlength, front ++ [dropFinalLineFeed top],
    dropFinalLineFeed top, ?_, ?_, ?_, List.getLast?_concat, by rwa [hlast]⟩
  · rw [hbefore, List.replicate_zero, List.append_nil]
  · rw [List.forall_mem_append, List.forall_mem_singleton] at hparts ⊢
    rw [hlast]
    exact hparts
  · rw [List.length_append, List.length_singleton] at hcount ⊢
    exact hcount

/-- Without a final line feed, a name is still a name, and does not end with a blank. -/
lemma isDomain_dropFinalLineFeed (h : isDomain (domainOptions options) name = .ok true) :
    isDomain (domainOptions options) (dropFinalLineFeed name) = .ok true ∧
      ∀ c ∈ (dropFinalLineFeed name).getLast?, isBlank c = false := by
  obtain ⟨dots, htext⟩ := isDomain_iff.mp h
  cases dots with
  | zero =>
    obtain ⟨before, last, htop, hdrop, htext'⟩ := exists_last_label htext
    rw [hdrop, List.getLast?_append_of_ne_nil _ htop.ne_nil]
    exact ⟨isDomain_iff.mpr ⟨0, htext'⟩,
      fun c hc => not_isBlank_of_isVisible (htop.visible c (List.mem_of_getLast? hc))⟩
  | succ dots =>
    obtain ⟨-, parts, top, hname, -⟩ := htext
    have hlast : name.getLast? = some '.' := by
      rw [hname, List.replicate_succ', ← List.append_assoc, List.getLast?_concat]
    rw [dropFinalLineFeed_of_ne (by rw [hlast]; decide), hlast]
    refine ⟨h, fun c hc => ?_⟩
    cases hc
    decide

lemma trimmed_address (hlocal : LocalForm localPart)
    (hlast : ∀ c ∈ name.getLast?, isBlank c = false) :
    Trimmed isBlank (localPart ++ '@' :: name) := by
  constructor
  · obtain ⟨c, more, rfl⟩ := List.exists_cons_of_ne_nil hlocal.ne_nil
    intro a ha
    obtain rfl := Option.some.inj ha
    exact not_isBlank_of_isVisible (hlocal.visible _ List.mem_cons_self)
  · rw [List.getLast?_append_of_ne_nil _ (List.cons_ne_nil _ _)]
    cases name with
    | nil =>
      intro a ha
      obtain rfl := Option.some.inj ha
      decide
    | cons c name =>
      rw [List.getLast?_cons_cons]
      exact hlast

/-- A well-formed address has nothing to trim but a line feed at the end of its name. -/
lemma MailText.trim_of_whole
    (h : MailText options id (isDomain (domainOptions options) · = .ok true) s) :
    MailText options dropFinalLineFeed (isDomain (domainOptions options) · = .ok true)
      (trim s) := by
  obtain ⟨hlength, localPart, name, rfl, hne, hle, hform, hname⟩ := h
  obtain ⟨hname', hlast⟩ := isDomain_dropFinalLineFeed hname
  have htrimmed := trimmed_address hform hlast
  have htrim : trim (localPart ++ '@' :: name) = localPart ++ '@' :: dropFinalLineFeed name := by
    rcases eq_dropFinalLineFeed_or name with heq | heq
    · rw [← heq] at htrimmed ⊢
      exact htrimmed.trimWhere_eq
    · have hcut : localPart ++ '@' :: name =
          (localPart ++ '@' :: dropFinalLineFeed name) ++ ['\n'] := by
        rw [List.append_assoc, List.cons_append, ← heq]
      rw [hcut]
      exact trimWhere_append_trail htrimmed (List.append_ne_nil_of_left_ne_nil hne _)
        (List.forall_mem_singleton.mpr (by decide))
  have hshorter := (dropFinalLineFeed_sublist name).length_le
  have hsame : dropFinalLineFeed localPart = localPart :=
    dropFinalLineFeed_of_ne (getLast?_ne_lineFeed hform.notMem_lineFeed)
  rw [htrim]
  refine ⟨hlength.imp_right fun hlength => ?_, localPart, _, rfl, hne, hle, ?_, hname'⟩
  · rw [List.length_append, List.length_cons] at hlength ⊢
    omega
  · rw [hsame]
    exact hform

/-- What is accepted as it is, without a line feed before an `@`, is well formed. -/
lemma MailText.whole {isName : List Char → Prop} (h : MailText options dropFinalLineFeed isName s)
    (hs : ¬['\n', '@'] <:+: s) : MailText options id isName s := by
  obtain ⟨hlength, localPart, name, rfl, hne, hle, hform, hname⟩ := h
  refine ⟨hlength, localPart, name, rfl, hne, hle, ?_, hname⟩
  rcases eq_dropFinalLineFeed_or localPart with heq | heq
  · rw [id_eq, heq]
    exact hform
  · refine absurd ⟨dropFinalLineFeed localPart, name, ?_⟩ hs
    rw [List.append_assoc, List.cons_append, List.cons_append, List.nil_append]
    nth_rewrite 2 [heq]
    simp

section Filters

variable {ε α : Type} [DecidableEq ε] {p : α → Except ε Bool} {items kept : List α}

lemma filterAuxM_eq_ok_iff {acc : List α} : items.filterAuxM p acc = .ok kept ↔
    (∀ a ∈ items, ∃ b, p a = .ok b) ∧ kept = (items.filter (p · = .ok true)).reverse ++ acc := by
  induction items generalizing acc with
  | nil =>
    refine Except.ok.injEq _ _ |>.to_iff.trans ?_
    simp [eq_comm]
  | cons a items ih =>
    rw [List.filterAuxM, List.forall_mem_cons]
    cases ha : p a with
    | error e => exact iff_of_false (by rintro ⟨⟩) (by rintro ⟨⟨⟨_, ⟨⟩⟩, _⟩, _⟩)
    | ok b =>
      change items.filterAuxM p (cond b (a :: acc) acc) = .ok kept ↔ _
      have hb : ∃ b', (.ok b : Except ε Bool) = .ok b' := ⟨b, rfl⟩
      rw [ih, and_iff_right hb, List.filter_cons, ha]
      cases b <;> simp

lemma filterM_eq_ok_iff : items.filterM p = .ok kept ↔
    (∀ a ∈ items, ∃ b, p a = .ok b) ∧ kept = items.filter (p · = .ok true) := by
  unfold List.filterM
  rw [bind_eq_ok]
  simp only [filterAuxM_eq_ok_iff, List.append_nil]
  constructor
  · rintro ⟨_, ⟨hall, rfl⟩, hkept⟩
    rw [List.reverse_reverse] at hkept
    exact ⟨hall, (Except.ok.inj hkept).symm⟩
  · rintro ⟨hall, rfl⟩
    exact ⟨_, ⟨hall, rfl⟩, by rw [List.reverse_reverse]; rfl⟩

end Filters

/-- The addresses that are reported are those that are found to be none. -/
lemma invalidAddresses_eq_ok_iff {parts invalid : List (List Char)}
    (hparts : addresses o s = .ok parts) : invalidAddresses o s = .ok invalid ↔
      (∀ a ∈ parts, ∃ b, isEmail o a = .ok b) ∧
        invalid = parts.filter (isEmail o · = .ok false) := by
  have hnot : ∀ (x : Except Fault Bool) (b : Bool),
      (do return !(← x) : Except Fault Bool) = .ok b ↔ x = .ok !b := by
    intro x b
    cases x with
    | error f => exact iff_of_false nofun nofun
    | ok b' => cases b <;> cases b' <;> decide
  unfold invalidAddresses
  rw [hparts]
  change (parts.filterM fun a => do return !(← isEmail o a)) = .ok invalid ↔ _
  rw [filterM_eq_ok_iff]
  simp only [hnot, Bool.not_true, Bool.exists_bool, Bool.not_false, or_comm]

lemma addresses_of_single (h : o.multiple = false) : addresses o s = .ok [trim s] := by
  unfold addresses
  rw [h, if_neg Bool.false_ne_true]

lemma addresses_intercalate {sep : Char} {parts : List (List Char)} (h : o.multiple = true)
    (hseparator : o.separator = some (String.ofList [sep])) (hne : parts ≠ [])
    (hparts : ∀ part ∈ parts, sep ∉ part) :
    addresses o ([sep].intercalate parts) = .ok (parts.map trim) := by
  unfold addresses
  rw [h, if_pos rfl, hseparator]
  dsimp only
  rw [String.toList_ofList, splitOnText_single, splitOnChar_eq_splitOn,
    List.splitOn_intercalate sep hparts hne]

end Format

open Format StringRule

variable {store : Store} {prefs : Preferences} {env : Environment} {o : EmailOptions}
  {s : List Char}

/-- What the rule says about a text some of whose addresses are none. -/
def emailDetail (prefs : Preferences) (env : Environment) (s : List Char)
    (invalid : List (List Char)) : Detail :=
  Visit.detail ⟨[], prefs, env⟩ .stringEmail (.str (String.ofList s))
    [("invalids", .strings (invalid.map String.ofList))]

lemma attempt_email (o : EmailOptions) (s : List Char) :
    attempt store prefs env (.string .plain [email o]) (.str (String.ofList s)) =
      match invalidAddresses o s with
      | .error f => .error (.fault f)
      | .ok [] => .ok (.str (String.ofList s))
      | .ok (a :: invalid) => .error (.issue (emailDetail prefs env s (a :: invalid))) := by
  rw [attempt_textRule, check, checkEmail, String.toList_ofList]
  cases invalidAddresses o s with
  | error f => rfl
  | ok invalid => cases invalid <;> rfl

lemma email_accepts_iff : (email o).Accepts store prefs env s ↔ invalidAddresses o s = .ok [] := by
  unfold Accepts Gives
  rw [attempt_email]
  split
  · rename_i h
    exact iff_of_false nofun (by rw [h]; nofun)
  · rename_i h
    exact iff_of_true rfl h
  · rename_i h
    exact iff_of_false nofun (by rw [h]; nofun)

lemma email_issue_iff {detail : Detail} :
    attempt store prefs env (.string .plain [email o]) (.str (String.ofList s)) =
        .error (.issue detail) ↔
      ∃ invalid, invalid ≠ [] ∧ invalidAddresses o s = .ok invalid ∧
        detail = emailDetail prefs env s invalid := by
  rw [attempt_email]
  split
  · rename_i h
    exact iff_of_false nofun (by rw [h]; rintro ⟨_, _, h, _⟩; cases h)
  · rename_i h
    rw [h]
    refine iff_of_false nofun ?_
    rintro ⟨_, hne, heq, -⟩
    exact hne (Except.ok.inj heq).symm
  · rename_i a invalid h
    rw [h]
    constructor
    · intro h
      cases h
      exact ⟨_, List.cons_ne_nil _ _, rfl, rfl⟩
    · rintro ⟨_, -, heq, rfl⟩
      rw [← Except.ok.inj heq]

lemma email_refuses_iff : (email o).Refuses store prefs env s "string.email" ↔
    ∃ invalid, invalid ≠ [] ∧ invalidAddresses o s = .ok invalid := by
  unfold Refuses
  simp only [email_issue_iff]
  constructor
  · rintro ⟨_, ⟨invalid, hne, hinvalid, rfl⟩, -⟩
    exact ⟨invalid, hne, hinvalid⟩
  · rintro ⟨invalid, hne, hinvalid⟩
    exact ⟨_, ⟨invalid, hne, hinvalid, rfl⟩, rfl⟩

section Single

variable (h : o.multiple = false)

include h

lemma single_accepts_iff : (email o).Accepts store prefs env s ↔ isEmail o (trim s) = .ok true := by
  rw [email_accepts_iff, invalidAddresses_eq_ok_iff (addresses_of_single h)]
  cases hvalid : isEmail o (trim s) with
  | error f => simp [hvalid]
  | ok b => cases b <;> simp [hvalid]

lemma single_refuses_iff : (email o).Refuses store prefs env s "string.email" ↔
    isEmail o (trim s) = .ok false := by
  rw [email_refuses_iff]
  simp only [invalidAddresses_eq_ok_iff (addresses_of_single h)]
  cases hvalid : isEmail o (trim s) with
  | error f => simp [hvalid]
  | ok b => cases b <;> simp [hvalid]

end Single

/-- The options for an address on its own. -/
def aloneOptions (options : Entries) : Entries := options.filter (·.1 != "multiple")

lemma lookup?_filter_ne (key name : String) (entries : Entries) :
    lookup? key (entries.filter (·.1 != name)) =
      if key = name then none else lookup? key entries := by
  induction entries with
  | nil => simp [lookup?]
  | cons entry entries ih =>
    obtain ⟨k, v⟩ := entry
    by_cases hk : k = name
    · rw [List.filter_cons_of_neg (by simpa using hk), ih, lookup?, hk]
      by_cases hname : key = name
      · rw [if_pos hname, if_pos hname]
      · rw [if_neg hname, if_neg hname, if_neg (Ne.symm hname)]
    · rw [List.filter_cons_of_pos (by simpa using hk), lookup?, lookup?, ih]
      by_cases hkey : k = key
      · rw [if_pos hkey, if_pos hkey, if_neg (hkey ▸ hk)]
      · rw [if_neg hkey, if_neg hkey]

lemma emailOptions_alone (options : Entries) :
    emailOptions (aloneOptions options) = { emailOptions options with multiple := false } := by
  unfold emailOptions domainOptions aloneOptions Value.option
  simp only [lookup?_filter_ne]
  rfl

lemma isEmail_alone (options : Entries) (a : List Char) :
    isEmail (emailOptions (aloneOptions options)) a = isEmail (emailOptions options) a := by
  rw [emailOptions_alone]
  rfl

lemma trim_trim (s : List Char) : Unicode.trim (Unicode.trim s) = Unicode.trim s :=
  trimWhere_trimWhere isBlank s

lemma alone_accepts_iff (options : Entries) (part : List Char) :
    (email (emailOptions (aloneOptions options))).Accepts store prefs env (trim part) ↔
      isEmail (emailOptions options) (trim part) = .ok true := by
  rw [single_accepts_iff (by rw [emailOptions_alone]), isEmail_alone, trim_trim]

lemma alone_refuses_iff (options : Entries) (part : List Char) :
    (email (emailOptions (aloneOptions options))).Refuses store prefs env (trim part)
      "string.email" ↔ isEmail (emailOptions options) (trim part) = .ok false := by
  rw [single_refuses_iff (by rw [emailOptions_alone]), isEmail_alone, trim_trim]

section Lists

variable {parts invalid : List (List Char)} (haddresses : addresses o s = .ok (parts.map trim))

include haddresses

/-- Addresses are found to be none one by one. -/
lemma invalidAddresses_list_iff : invalidAddresses o s = .ok invalid ↔
    (∀ part ∈ parts, isEmail o (trim part) = .ok true ∨ isEmail o (trim part) = .ok false) ∧
      invalid = (parts.map trim).filter (isEmail o · = .ok false) := by
  rw [invalidAddresses_eq_ok_iff haddresses, List.forall_mem_map]
  simp only [Bool.exists_bool, or_comm]

lemma list_accepts_iff : (email o).Accepts store prefs env s ↔
    ∀ part ∈ parts, isEmail o (trim part) = .ok true := by
  rw [email_accepts_iff, invalidAddresses_list_iff haddresses, eq_comm (a := []),
    List.filter_eq_nil_iff, List.forall_mem_map]
  simp only [decide_eq_true_eq]
  constructor
  · rintro ⟨hall, hnone⟩ part hpart
    exact (hall part hpart).resolve_right (hnone part hpart)
  · intro hall
    exact ⟨fun part hpart => Or.inl (hall part hpart), fun part hpart => by
      rw [hall part hpart]
      decide⟩

lemma list_refuses_iff : (email o).Refuses store prefs env s "string.email" ↔
    (∀ part ∈ parts, isEmail o (trim part) = .ok true ∨ isEmail o (trim part) = .ok false) ∧
      ∃ part ∈ parts, isEmail o (trim part) = .ok false := by
  rw [email_refuses_iff]
  simp only [invalidAddresses_list_iff haddresses]
  constructor
  · rintro ⟨_, hne, hall, rfl⟩
    refine ⟨hall, ?_⟩
    obtain ⟨a, ha⟩ := List.exists_mem_of_ne_nil _ hne
    obtain ⟨hmem, hinvalid⟩ := List.mem_filter.mp ha
    obtain ⟨part, hpart, rfl⟩ := List.mem_map.mp hmem
    exact ⟨part, hpart, of_decide_eq_true hinvalid⟩
  · rintro ⟨hall, part, hpart, hinvalid⟩
    refine ⟨_, List.ne_nil_of_mem (a := trim part) ?_, hall, rfl⟩
    exact List.mem_filter.mpr ⟨List.mem_map_of_mem hpart, decide_eq_true hinvalid⟩

lemma list_issue {detail : Detail} (h : attempt store prefs env (.string .plain [email o])
    (.str (String.ofList s)) = .error (.issue detail)) : detail.code = "string.email" ∧
      lookup? "invalids" detail.context = some (.strings
        (((parts.map trim).filter (isEmail o · = .ok false)).map String.ofList)) ∧
      ∀ part ∈ parts, isEmail o (trim part) = .ok true ∨ isEmail o (trim part) = .ok false := by
  obtain ⟨invalid, -, hinvalid, rfl⟩ := email_issue_iff.mp h
  obtain ⟨hall, rfl⟩ := (invalidAddresses_list_iff haddresses).mp hinvalid
  exact ⟨rfl, rfl, hall⟩

end Lists

/-- What the rule says of a text that is one address: it is right about well-formed addresses, and
about others that have nothing to trim and no line feed before an `@`. -/
lemma email_accepts_single {options : Entries}
    (hsingle : (Value.option "multiple" options).truthy = false) (s : List Char) :
    let rule := email (emailOptions options)
    let isName := (domain (domainOptions options)).Accepts store prefs env
    (rule.Accepts store prefs env s ↔ MailText options dropFinalLineFeed isName (trim s)) ∧
    (MailText options id isName s → rule.Accepts store prefs env s) ∧
    (trim s = s → ¬['\n', '@'] <:+: s → rule.Accepts store prefs env s →
      MailText options id isName s) := by
  intro rule isName
  have hname : isName = (isDomain (domainOptions options) · = .ok true) :=
    funext fun _ => propext domain_accepts_iff
  have haccepts : rule.Accepts store prefs env s ↔
      MailText options dropFinalLineFeed isName (trim s) := by
    rw [single_accepts_iff hsingle, isEmail_iff, hname]
  refine ⟨haccepts, fun h => ?_, fun htrim hs h => ?_⟩
  · rw [hname] at h
    rw [haccepts, hname]
    exact h.trim_of_whole
  · rw [haccepts, htrim] at h
    exact h.whole hs

open Classical in
/-- The operation adds the rule of its options. Where these do not ask for a list, the text without
blanks at its ends is checked, and a line feed may follow the local part. So all well-formed
addresses are accepted, and no other texts of those that have nothing to trim and no line feed
before an `@`. Addresses joined by a separator that none of them contains are judged one by one,
each as it is without the option for lists, and those that are none are reported in their order. -/
theorem email_accepts (store : Store) (prefs : Preferences) (env : Environment)
    (options : Entries) :
    let rule := email (emailOptions options)
    let alone := email (emailOptions (aloneOptions options))
    let isName := (domain (domainOptions options)).Accepts store prefs env
    rule.AddedBy "email" [.object options] ∧
    ((Value.option "multiple" options).truthy = false → ∀ s,
      (rule.Accepts store prefs env s ↔ MailText options dropFinalLineFeed isName (trim s)) ∧
      (MailText options id isName s → rule.Accepts store prefs env s) ∧
      (trim s = s → ¬['\n', '@'] <:+: s → rule.Accepts store prefs env s →
        MailText options id isName s)) ∧
    ((Value.option "multiple" options).truthy = true → ∀ (sep : Char) (parts : List (List Char)),
      (emailOptions options).separator = some (String.ofList [sep]) → parts ≠ [] →
      (∀ part ∈ parts, sep ∉ part) →
      let joined := [sep].intercalate parts
      (rule.Accepts store prefs env joined ↔
        ∀ part ∈ parts, alone.Accepts store prefs env (trim part)) ∧
      (rule.Refuses store prefs env joined "string.email" ↔
        (∀ part ∈ parts, alone.Accepts store prefs env (trim part) ∨
          alone.Refuses store prefs env (trim part) "string.email") ∧
        ∃ part ∈ parts, alone.Refuses store prefs env (trim part) "string.email") ∧
      ∀ detail, attempt store prefs env (.string .plain [rule]) (.str (String.ofList joined)) =
          .error (.issue detail) → detail.code = "string.email" ∧
        lookup? "invalids" detail.context = some (.strings
          (((parts.map trim).filter fun a => ¬alone.Accepts store prefs env a).map
            String.ofList))) := by
  intro rule alone isName
  refine ⟨fun _ _ => rfl, email_accepts_single, fun hmultiple sep parts hsep hne hparts => ?_⟩
  intro joined
  have haddresses : addresses (emailOptions options) joined = .ok (parts.map trim) :=
    addresses_intercalate hmultiple hsep hne hparts
  simp only [alone, alone_accepts_iff, alone_refuses_iff]
  refine ⟨list_accepts_iff haddresses, list_refuses_iff haddresses, fun detail h => ?_⟩
  obtain ⟨hcode, hinvalids, hall⟩ := list_issue haddresses h
  refine ⟨hcode, hinvalids.trans ?_⟩
  -- No address raises a fault, so those that are not accepted are those that are found to be none.
  congr 3
  refine List.filter_congr fun a ha => ?_
  obtain ⟨part, hpart, rfl⟩ := List.mem_map.mp ha
  rw [decide_eq_decide, alone_accepts_iff]
  rcases hall part hpart with h | h <;> simp [h]

theorem email_accepts_list :
    let options : Entries := [("multiple", .bool true)]
    let parts := ["user@example.com", " info@example.org "].map String.toList
    (Value.option "multiple" options).truthy = true ∧
      (emailOptions options).separator = some (String.ofList [',']) ∧ parts ≠ [] ∧
      (∀ part ∈ parts, ',' ∉ part) ∧
      (email (emailOptions options)).Accepts .empty ⟨false, false⟩ .epoch
        ([','].intercalate parts) := by
  intro options parts
  have hsep : (emailOptions options).separator = some (String.ofList [',']) := by decide
  have hparts : ∀ part ∈ parts, ',' ∉ part := by decide
  obtain ⟨-, -, hlist⟩ := email_accepts .empty ⟨false, false⟩ .epoch options
  obtain ⟨haccepts, -, -⟩ := hlist rfl ',' parts hsep (by decide) hparts
  refine ⟨rfl, hsep, by decide, hparts, haccepts.mpr ?_⟩
  refine List.forall_mem_cons.mpr ⟨?_, List.forall_mem_singleton.mpr ?_⟩
  · rw [alone_accepts_iff]
    decide +kernel
  · rw [alone_accepts_iff]
    decide +kernel

/-- An address between blanks is accepted, but it is no address. -/
theorem not_email_accepts : ¬∀ (store : Store) (prefs : Preferences) (env : Environment)
    (options : Entries) (s : List Char), (Value.option "multiple" options).truthy = false →
      ((email (emailOptions options)).Accepts store prefs env s ↔
        MailText options id ((domain (domainOptions options)).Accepts store prefs env) s) := by
  intro hall
  have haccepted : (email (emailOptions [])).Accepts .empty ⟨false, false⟩ .epoch
      " user@example.com ".toList := by
    rw [single_accepts_iff rfl]
    decide +kernel
  obtain ⟨-, localPart, name, heq, hne, -, hform, -⟩ := (hall _ _ _ _ _ rfl).mp haccepted
  obtain ⟨c, more, rfl⟩ := List.exists_cons_of_ne_nil hne
  obtain rfl : ' ' = c := (List.cons.inj heq).1
  exact absurd (LocalForm.visible hform ' ' List.mem_cons_self) (by decide)

end InputGuard

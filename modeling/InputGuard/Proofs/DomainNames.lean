import InputGuard.Proofs.AcceptedTexts
import InputGuard.Proofs.Outcomes
import InputGuard.Proofs.ValueOrder

/-!
# Domain names

A domain name is labels between dots. The dots at its end are taken off before it is split, however
many there are, and each label is matched on its own, so that a line feed may follow each of them.
Without line feeds and without two dots at the end, the names that are accepted are those that are
well formed.
-/

namespace InputGuard

namespace Format

open StringRule (domainOptions labelBound)

variable {s w top : List Char} {parts : List (List Char)} {u : Bool}

lemma splitOnChar_eq_splitOn (sep : Char) (s : List Char) : splitOnChar sep s = s.splitOn sep := by
  unfold splitOnChar
  induction s with
  | nil => rfl
  | cons c s ih =>
    rw [splitWhere, List.splitOn_cons_eq_if_modifyHead, ih]
    split
    · rfl
    · cases hparts : s.splitOn sep with
      | nil => exact absurd hparts (List.splitOn_ne_nil sep s)
      | cons => rfl

lemma dropTrailing_append {c : Char} (h : s.getLast? ≠ some c) (n : ℕ) :
    dropTrailing c (s ++ List.replicate n c) = s := by
  have hdots : ∀ d ∈ List.replicate n c, (d == c) = true := fun d hd =>
    beq_iff_eq.mpr (List.eq_of_mem_replicate hd)
  rw [dropTrailing, List.reverse_append, List.reverse_replicate,
    List.dropWhile_append_of_pos hdots, List.reverse_eq_iff]
  cases hs : s.reverse with
  | nil => rfl
  | cons d front =>
    refine List.dropWhile_cons_of_neg fun hd => h ?_
    rw [← List.head?_reverse, hs, List.head?_cons, beq_iff_eq.mp hd]

lemma exists_dropTrailing (c : Char) (s : List Char) :
    ∃ n, s = dropTrailing c s ++ List.replicate n c := by
  refine ⟨(s.reverse.takeWhile (· == c)).length, ?_⟩
  have hdots : s.reverse.takeWhile (· == c) =
      List.replicate (s.reverse.takeWhile (· == c)).length c :=
    List.eq_replicate_iff.mpr ⟨rfl, fun d hd =>
      beq_iff_eq.mp (List.all_eq_true.mp List.all_takeWhile d hd)⟩
  rw [dropTrailing, ← List.reverse_replicate, ← hdots, ← List.reverse_append,
    List.takeWhile_append_dropWhile, List.reverse_reverse]

/-- A text is its labels with dots between them and perhaps more dots at the end. -/
lemma exists_labels (s : List Char) :
    ∃ dots, s = ['.'].intercalate (labels s) ++ List.replicate dots '.' := by
  obtain ⟨dots, hdots⟩ := exists_dropTrailing '.' s
  refine ⟨dots, ?_⟩
  rw [labels, splitOnChar_eq_splitOn, List.intercalate_splitOn, ← hdots]

lemma suffix_intercalate (h : parts.getLast? = some top) : top <:+ ['.'].intercalate parts := by
  induction parts with
  | nil => cases h
  | cons w parts ih =>
    cases parts with
    | nil =>
      obtain rfl : w = top := Option.some.inj h
      simp only [List.intercalate_singleton, List.suffix_refl]
    | cons w' parts =>
      rw [List.getLast?_cons_cons] at h
      rw [List.intercalate_cons_cons]
      exact (ih h).trans (List.suffix_append _ _)

lemma infix_intercalate (h : w ∈ parts) : w <:+: ['.'].intercalate parts := by
  induction parts with
  | nil => cases h
  | cons w' parts ih =>
    cases parts with
    | nil =>
      obtain rfl := List.mem_singleton.mp h
      simp only [List.intercalate_singleton, List.infix_refl]
    | cons w'' parts =>
      rw [List.intercalate_cons_cons]
      rcases List.mem_cons.mp h with rfl | h
      · rw [List.append_assoc]
        exact (List.prefix_append _ _).isInfix
      · exact (ih h).trans (List.suffix_append _ _).isInfix

/-- Texts without dots, of which the last is not empty, are the labels of what they make up. -/
lemma labels_intercalate (hparts : ∀ w ∈ parts, '.' ∉ w) (htop : parts.getLast? = some top)
    (hne : top ≠ []) (dots : ℕ) :
    labels (['.'].intercalate parts ++ List.replicate dots '.') = parts := by
  have hlast : (['.'].intercalate parts).getLast? ≠ some '.' := by
    obtain ⟨front, hfront⟩ := suffix_intercalate htop
    rw [← hfront, List.getLast?_append_of_ne_nil _ hne]
    exact fun h => hparts top (List.mem_of_getLast? htop) (List.mem_of_getLast? h)
  have hsome : parts ≠ [] := by
    rintro rfl
    cases htop
  rw [labels, dropTrailing_append hlast, splitOnChar_eq_splitOn,
    List.splitOn_intercalate '.' hparts hsome]

/-- One to 63 characters of those that a label may end with and hyphens, without a hyphen at either
end. -/
structure LabelForm (allowUnicode : Bool) (w : List Char) : Prop where
  ne_nil : w ≠ []
  length_le : w.length ≤ 63
  mem : ∀ c ∈ w, isLabelEnd allowUnicode c = true ∨ c = '-'
  head : w.head? ≠ some '-'
  last : w.getLast? ≠ some '-'

/-- Two to 63 letters, or an encoded name of one to 59 letters, digits and hyphens. -/
def TopForm (w : List Char) : Prop :=
  (2 ≤ w.length ∧ w.length ≤ 63 ∧ ∀ c ∈ w, c.isAlpha = true) ∨
    ∃ name, w = "xn--".toList ++ name ∧ 1 ≤ name.length ∧ name.length ≤ 59 ∧
      ∀ c ∈ name, c.isAlphanum = true ∨ c = '-'

lemma isLabelEnd_hyphen (u : Bool) : isLabelEnd u '-' = false := by
  cases u <;> decide

lemma isLabelEnd_dot (u : Bool) : isLabelEnd u '.' = false := by
  cases u <;> decide

lemma isLabelEnd_lineFeed (u : Bool) : isLabelEnd u '\n' = false := by
  cases u <;> decide

lemma LabelForm.notMem (h : LabelForm u w) {c : Char} (hc : isLabelEnd u c = false)
    (hhyphen : c ≠ '-') : c ∉ w := by
  intro hmem
  rcases h.mem c hmem with hend | rfl
  · rw [hc] at hend
    cases hend
  · exact hhyphen rfl

lemma LabelForm.notMem_dot (h : LabelForm u (dropFinalLineFeed w)) : '.' ∉ w := by
  have hdot := h.notMem (isLabelEnd_dot u) (by decide)
  rcases eq_dropFinalLineFeed_or w with hw | hw
  · rwa [hw]
  · rw [hw, List.mem_append, List.mem_singleton]
    exact not_or.mpr ⟨hdot, by decide⟩

lemma TopForm.notMem_lineFeed (h : TopForm w) : '\n' ∉ w := by
  rcases h with ⟨-, -, hall⟩ | ⟨name, rfl, -, -, hall⟩
  · exact fun hmem => absurd (hall _ hmem) (by decide)
  · rw [List.mem_append]
    rintro (hmem | hmem)
    · exact absurd hmem (by decide)
    · exact absurd (hall _ hmem) (by decide)

/-- What a label starts or ends with is one of its characters, and no hyphen. -/
lemma getD_isLabelEnd_iff {c? : Option Char} (hsome : c? ≠ none)
    (hmem : ∀ c ∈ c?, isLabelEnd u c = true ∨ c = '-') :
    (c?.map (isLabelEnd u)).getD false = true ↔ c? ≠ some '-' := by
  obtain ⟨c, rfl⟩ := Option.ne_none_iff_exists'.mp hsome
  rw [Option.map_some, Option.getD_some, ne_eq, Option.some.injEq]
  constructor
  · rintro hend rfl
    rw [isLabelEnd_hyphen] at hend
    cases hend
  · exact (hmem c rfl).resolve_right

lemma isLabel_iff : isLabel u s = true ↔ LabelForm u (dropFinalLineFeed s) := by
  unfold isLabel
  generalize dropFinalLineFeed s = t
  simp only [Bool.and_eq_true, Bool.not_eq_true', List.isEmpty_eq_false_iff, decide_eq_true_iff,
    List.all_eq_true, Bool.or_eq_true]
  have hends : t ≠ [] → (∀ c ∈ t, isLabelEnd u c = true ∨ c = '-') →
      ((t.head?.map (isLabelEnd u)).getD false = true ↔ t.head? ≠ some '-') ∧
        ((t.getLast?.map (isLabelEnd u)).getD false = true ↔ t.getLast? ≠ some '-') := by
    intro hne hall
    exact ⟨getD_isLabelEnd_iff (by simpa using hne) fun c hc => hall c (List.mem_of_head? hc),
      getD_isLabelEnd_iff (by simpa using hne) fun c hc => hall c (List.mem_of_getLast? hc)⟩
  constructor
  · rintro ⟨⟨⟨⟨hne, hlength⟩, hhead⟩, hlast⟩, hall⟩
    obtain ⟨hhead', hlast'⟩ := hends hne hall
    exact ⟨hne, hlength, hall, hhead'.mp hhead, hlast'.mp hlast⟩
  · rintro ⟨hne, hlength, hall, hhead, hlast⟩
    obtain ⟨hhead', hlast'⟩ := hends hne hall
    exact ⟨⟨⟨⟨hne, hlength⟩, hhead'.mpr hhead⟩, hlast'.mpr hlast⟩, hall⟩

lemma isTopLabel_iff : isTopLabel s = true ↔ TopForm (dropFinalLineFeed s) := by
  unfold isTopLabel TopForm
  generalize dropFinalLineFeed s = t
  simp only [Bool.and_eq_true, Bool.or_eq_true, decide_eq_true_iff, List.all_eq_true,
    List.isPrefixOf_iff_prefix, and_assoc]
  refine or_congr_right ⟨?_, ?_⟩
  · rintro ⟨⟨name, rfl⟩, hleast, hmost, hall⟩
    rw [List.length_append] at hleast hmost
    have hfour : ['x', 'n', '-', '-'].length = 4 := rfl
    exact ⟨name, rfl, by omega, by omega, hall⟩
  · rintro ⟨name, rfl, hleast, hmost, hall⟩
    have hfour : "xn--".toList.length = 4 := rfl
    rw [List.length_append]
    exact ⟨List.prefix_append _ _, by omega, by omega, hall⟩

/-- The bounds of the options hold a number of labels, which is two at least unless there is another
bound. -/
def CountFits (options : Entries) (n : ℕ) : Prop :=
  let least := Value.option "min_domain_segments" options
  let most := Value.option "max_domain_segments" options
  (if least.truthy then ∃ x, least.number? = some x ∧ (Number.int n).lt x = false else 2 ≤ n) ∧
    (most = .null ∨ ∃ x, most.number? = some x ∧ x.lt (.int n) = false)

/-- A test before others, which refuses if it holds. -/
lemma unlessRefused_eq_ok {x rest : Except Fault Bool} :
    (x >>= fun b => if b = true then pure false else rest) = .ok true ↔
      x = .ok false ∧ rest = .ok true := by
  cases x with
  | error f => exact iff_of_false nofun nofun
  | ok b =>
    cases b with
    | true => exact iff_of_false nofun nofun
    | false => exact (and_iff_right rfl).symm

lemma isDomain_eq_true_iff {o : DomainOptions} : isDomain o s = .ok true ↔
    s ≠ [] ∧ s.length ≤ 253 ∧ (o.least.exceeds (labels s).length = .ok false ∧
      ∀ b, o.most = some b → b.isExceededBy (labels s).length = .ok false) ∧
      (∀ w ∈ labels s, isLabel o.allowUnicode w = true) ∧
        ∃ top, (labels s).getLast? = some top ∧ isTopLabel top = true := by
  obtain ⟨u, least, most⟩ := o
  have hlabels : (.ok ((labels s).all (isLabel u) &&
      ((labels s).getLast?.map isTopLabel).getD false) : Except Fault Bool) = .ok true ↔
        (∀ w ∈ labels s, isLabel u w = true) ∧
          ∃ top, (labels s).getLast? = some top ∧ isTopLabel top = true := by
    rw [Except.ok.injEq, Bool.and_eq_true, List.all_eq_true]
    refine and_congr_right fun _ => ?_
    cases (labels s).getLast? <;> simp
  unfold isDomain
  by_cases hs : s ≠ [] ∧ s.length ≤ 253
  · have hcounted : (s.isEmpty || decide (253 < s.length)) = false := by simpa using hs
    dsimp only
    rw [hcounted, if_neg Bool.false_ne_true, and_iff_right hs.1, and_iff_right hs.2]
    rw [unlessRefused_eq_ok, and_assoc]
    refine and_congr_right fun _ => ?_
    cases most with
    | none =>
      simp only [reduceCtorEq, false_implies, implies_true, true_and]
      exact hlabels
    | some most =>
      simp only [Option.some.injEq, forall_eq']
      exact unlessRefused_eq_ok.trans (and_congr_right fun _ => hlabels)
  · have hcounted : (s.isEmpty || decide (253 < s.length)) = true := by
      rw [← Bool.not_eq_false]
      simpa using hs
    rw [hcounted]
    exact iff_of_false nofun fun h => hs ⟨h.1, h.2.1⟩

lemma countFits_iff {options : Entries} {n : ℕ} :
    ((domainOptions options).least.exceeds n = .ok false ∧
      ∀ b, (domainOptions options).most = some b → b.isExceededBy n = .ok false) ↔
        CountFits options n := by
  have hbound : ∀ v, (labelBound v).exceeds n = .ok false ↔
      ∃ x, v.number? = some x ∧ (Number.int n).lt x = false := by
    intro v
    unfold labelBound
    cases v.number? <;> simp [LabelBound.exceeds]
  have hbound' : ∀ v, (labelBound v).isExceededBy n = .ok false ↔
      ∃ x, v.number? = some x ∧ x.lt (.int n) = false := by
    intro v
    unfold labelBound
    cases v.number? <;> simp [LabelBound.isExceededBy]
  unfold CountFits domainOptions
  refine and_congr ?_ ?_
  · dsimp only
    split
    · exact hbound _
    · rw [LabelBound.exceeds, Except.ok.injEq, Number.lt_int, decide_eq_false_iff_not]
      omega
  · dsimp only
    cases hnull : (Value.option "max_domain_segments" options).isNull with
    | true =>
      have hv : Value.option "max_domain_segments" options = .null := by
        cases hv : Value.option "max_domain_segments" options <;> rw [hv] at hnull <;> trivial
      refine iff_of_true (fun b hb => ?_) (Or.inl hv)
      cases hb
    | false =>
      have hv : Value.option "max_domain_segments" options ≠ .null := fun hv => by
        rw [hv] at hnull
        cases hnull
      rw [or_iff_right hv, ← hbound']
      simp

/-- Labels joined by dots, with more dots at the end. `proper` takes off what does not count. -/
def DomainText (options : Entries) (proper : List Char → List Char) (dots : ℕ) (s : List Char) :
    Prop :=
  s.length ≤ 253 ∧ ∃ parts top, s = ['.'].intercalate parts ++ List.replicate dots '.' ∧
    (∀ w ∈ parts, LabelForm (domainOptions options).allowUnicode (proper w)) ∧
      CountFits options parts.length ∧ parts.getLast? = some top ∧ TopForm (proper top)

/-- What well-formed labels make up splits into them again. -/
lemma labels_of_forms {dots : ℕ} (hparts : ∀ w ∈ parts, LabelForm u (dropFinalLineFeed w))
    (htop : parts.getLast? = some top) :
    labels (['.'].intercalate parts ++ List.replicate dots '.') = parts := by
  refine labels_intercalate (fun w hw => (hparts w hw).notMem_dot) htop ?_ dots
  rintro rfl
  exact (hparts [] (List.mem_of_getLast? htop)).ne_nil rfl

lemma isDomain_iff {options : Entries} : isDomain (domainOptions options) s = .ok true ↔
    ∃ dots, DomainText options dropFinalLineFeed dots s := by
  rw [isDomain_eq_true_iff, countFits_iff]
  simp only [isLabel_iff, isTopLabel_iff]
  constructor
  · rintro ⟨-, hlength, hcount, hlabels, top, htop, hform⟩
    obtain ⟨dots, hdots⟩ := exists_labels s
    exact ⟨dots, hlength, labels s, top, hdots, hlabels, hcount, htop, hform⟩
  · rintro ⟨dots, hlength, parts, top, rfl, hparts, hcount, htop, hform⟩
    rw [labels_of_forms hparts htop]
    refine ⟨fun hempty => ?_, hlength, hcount, hparts, top, htop, hform⟩
    obtain ⟨front, hfront⟩ := suffix_intercalate htop
    rw [← hfront, List.append_eq_nil_iff, List.append_eq_nil_iff] at hempty
    obtain rfl : top = [] := hempty.1.2
    exact (hparts [] (List.mem_of_getLast? htop)).ne_nil rfl

/-- What takes the same off the parts of a text makes no difference to it. -/
lemma DomainText.congr {options : Entries} {proper proper' : List Char → List Char} {dots : ℕ}
    (h : DomainText options proper dots s)
    (hproper : ∀ w, w <:+: s → LabelForm (domainOptions options).allowUnicode (proper w) →
      proper' w = proper w) : DomainText options proper' dots s := by
  obtain ⟨hlength, parts, top, rfl, hparts, hcount, htop, hform⟩ := h
  have hsame : ∀ w ∈ parts, proper' w = proper w := fun w hw =>
    hproper w ((infix_intercalate hw).trans (List.prefix_append _ _).isInfix) (hparts w hw)
  refine ⟨hlength, parts, top, rfl, fun w hw => ?_, hcount, htop, ?_⟩
  · rw [hsame w hw]
    exact hparts w hw
  · rw [hsame top (List.mem_of_getLast? htop)]
    exact hform

/-- Well-formed labels have no line feed that could be taken off. -/
lemma DomainText.of_whole {options : Entries} {dots : ℕ} (h : DomainText options id dots s) :
    DomainText options dropFinalLineFeed dots s :=
  h.congr fun _ _ hform => dropFinalLineFeed_of_ne
    (getLast?_ne_lineFeed (hform.notMem (isLabelEnd_lineFeed _) (by decide)))

lemma DomainText.whole {options : Entries} {dots : ℕ}
    (h : DomainText options dropFinalLineFeed dots s) (hs : '\n' ∉ s) :
    DomainText options id dots s :=
  h.congr fun _ hw _ => (dropFinalLineFeed_of_ne
    (getLast?_ne_lineFeed fun hmem => hs (hw.subset hmem))).symm

lemma DomainText.dots_le_one {options : Entries} {proper : List Char → List Char} {dots : ℕ}
    (h : DomainText options proper dots s) (hs : ¬['.', '.'] <:+ s) : dots ≤ 1 := by
  obtain ⟨-, parts, top, rfl, -⟩ := h
  by_contra hdots
  obtain ⟨more, rfl⟩ := Nat.exists_eq_add_of_lt (Nat.lt_of_not_le hdots)
  refine hs (List.IsSuffix.trans ?_ (List.suffix_append _ _))
  refine ⟨List.replicate more '.', ?_⟩
  rw [show ['.', '.'] = List.replicate 2 '.' from rfl, ← List.replicate_add]
  congr 1
  omega

open Pattern

/-- A character that a label may end with, in a pattern. -/
def endSet (allowUnicode : Bool) : List SetItem :=
  if allowUnicode then [.cls false .word] else [.range 97 122, .range 65 90, .range 48 57]

def labelPattern (allowUnicode : Bool) : Pattern where
  source := if allowUnicode then "^\\w(?:[\\w-]\x7b0,61\x7d\\w)?$"
    else "^[a-zA-Z0-9](?:[a-zA-Z0-9-]\x7b0,61\x7d[a-zA-Z0-9])?$"
  flags := .none
  node :=
    let outer := .single plainly (.set false (endSet allowUnicode))
    let inner := .single plainly (.set false (endSet allowUnicode ++ [.code 45]))
    .sequence (.anchor .textStart) (.sequence outer (.sequence (.repeated .greedy 0 (some 1)
      (.sequence (.repeated .greedy 0 (some 61) inner) outer)) (.anchor .finalEnd)))

lemma read_labelPattern (allowUnicode : Bool) :
    Pattern.read (labelPattern allowUnicode).source .none = .ok (labelPattern allowUnicode) := by
  cases allowUnicode <;> decide +kernel

lemma holds_endSet (c : Char) :
    (Single.set false (endSet u)).holds plainly c = isLabelEnd u c := by
  rw [plainly, holds_set, Bool.eq_iff_iff]
  cases u with
  | false =>
    rw [isLabelEnd, if_neg Bool.false_ne_true, isAlphanum_iff]
    simp [endSet, SetItem.plainHolds, or_assoc]
  | true => simp [endSet, SetItem.plainHolds, isLabelEnd, CharClass.holds]

lemma holds_innerSet (c : Char) :
    (Single.set false (endSet u ++ [.code 45])).holds plainly c = true ↔
      isLabelEnd u c = true ∨ c = '-' := by
  rw [← holds_endSet, plainly, holds_set, holds_set, List.any_append, Bool.or_eq_true, eq_iff_toNat]
  simp [SetItem.plainHolds]

/-- A label is one character, or two with at most 61 between them. -/
lemma labelForm_iff : LabelForm u w ↔
    ∃ first others, w = first ++ others ∧ (∃ c, first = [c] ∧ isLabelEnd u c = true) ∧
      (others = [] ∨ ∃ inner last, others = inner ++ last ∧
        (inner.length ≤ 61 ∧ ∀ c ∈ inner, isLabelEnd u c = true ∨ c = '-') ∧
          ∃ c, last = [c] ∧ isLabelEnd u c = true) := by
  constructor
  · intro h
    obtain ⟨c, others, rfl⟩ := List.exists_cons_of_ne_nil h.ne_nil
    obtain ⟨hc, hothers⟩ := List.forall_mem_cons.mp h.mem
    refine ⟨[c], others, rfl, ⟨c, rfl, hc.resolve_right fun hc => h.head (by rw [hc]; rfl)⟩, ?_⟩
    rcases List.eq_nil_or_concat' others with rfl | ⟨inner, d, rfl⟩
    · exact Or.inl rfl
    · rw [List.forall_mem_append, List.forall_mem_singleton] at hothers
      have hlength := h.length_le
      rw [List.length_cons, List.length_append, List.length_singleton] at hlength
      have hlast : d ≠ '-' := by
        rintro rfl
        exact h.last (by rw [← List.cons_append, List.getLast?_concat])
      exact Or.inr ⟨inner, [d], rfl, ⟨by omega, hothers.1⟩, d, rfl, hothers.2.resolve_right hlast⟩
  · have hne : ∀ {c}, isLabelEnd u c = true → some c ≠ some '-' := by
      rintro c hc ⟨⟩
      rw [isLabelEnd_hyphen] at hc
      cases hc
    rintro ⟨_, _, rfl, ⟨c, rfl, hc⟩, rfl | ⟨inner, _, rfl, ⟨hlength, hinner⟩, d, rfl, hd⟩⟩
    · exact ⟨List.cons_ne_nil _ _, Nat.succ_le_of_lt (by decide),
        List.forall_mem_singleton.mpr (Or.inl hc), hne hc, hne hc⟩
    · refine ⟨List.cons_ne_nil _ _, ?_, ?_, hne hc, ?_⟩
      · rw [List.length_append, List.length_append, List.length_singleton, List.length_singleton]
        omega
      · rw [List.forall_mem_append, List.forall_mem_append]
        exact ⟨List.forall_mem_singleton.mpr (Or.inl hc), hinner,
          List.forall_mem_singleton.mpr (Or.inl hd)⟩
      · rw [← List.append_assoc, List.getLast?_concat]
        exact hne hd

/-- The labels are those that the patterns find. -/
theorem isLabel_eq_search (u : Bool) (s : List Char) :
    isLabel u s = (labelPattern u).search (String.ofList s) := by
  have houter : Spells (.single plainly (.set false (endSet u))) fun w =>
      ∃ c, w = [c] ∧ isLabelEnd u c = true := by
    simpa only [holds_endSet] using Spells.single plainly (.set false (endSet u))
  have hinner : Spells (.repeated .greedy 0 (some 61)
      (.single plainly (.set false (endSet u ++ [.code 45])))) fun w =>
        w.length ≤ 61 ∧ ∀ c ∈ w, isLabelEnd u c = true ∨ c = '-' := by
    refine (Spells.run _ _ _).congr fun w => ?_
    simp only [holds_innerSet, Nat.zero_le, true_and, Option.some.injEq, forall_eq']
  have hlabel := (houter.sequence (Spells.optional .greedy (hinner.sequence houter))).congr
    fun w => labelForm_iff.symm
  have hanchored : (labelPattern u).node.isAnchored = true := by
    cases u <;> rfl
  rw [Bool.eq_iff_iff, isLabel_iff]
  exact (hlabel.search_iff (fun _ hw => hw.notMem (isLabelEnd_lineFeed u) (by decide)) hanchored
    fun _ => Spells.reads_assoc).symm

/-- The characters of a text one after the other, before a node. -/
def spellOut (text : List Char) (next : Node) : Node :=
  text.foldr (fun c node => .sequence (.single plainly (.code false c.toNat)) node) next

lemma reads_spellOut_iff {text : List Char} {next : Node} {captures : List (ℕ × List Char)} :
    (∃ q, (spellOut text next).Reads ⟨s, captures⟩ q) ↔
      ∃ rest, s = text ++ rest ∧ ∃ q, next.Reads ⟨rest, captures⟩ q := by
  induction text generalizing s with
  | nil =>
    constructor
    · exact fun hnext => ⟨s, rfl, hnext⟩
    · rintro ⟨_, rfl, hnext⟩
      exact hnext
  | cons c text ih =>
    constructor
    · rintro ⟨q, ⟨rest, _⟩, ⟨d, hs, hd, rfl⟩, hq⟩
      rw [plainly, holds_code, beq_iff_eq, ← eq_iff_toNat] at hd
      obtain rfl : s = d :: rest := hs
      obtain ⟨rest', rfl, hnext⟩ := ih.mp ⟨q, hq⟩
      exact ⟨rest', by rw [hd]; rfl, hnext⟩
    · rintro ⟨rest, rfl, hnext⟩
      obtain ⟨q, hq⟩ := ih.mpr ⟨rest, rfl, hnext⟩
      exact ⟨q, ⟨text ++ rest, captures⟩, ⟨c, rfl, by simp [plainly, holds_code], rfl⟩, hq⟩

def topPattern : Pattern where
  source := "^[a-zA-Z]\x7b2,63\x7d$|^xn--[a-zA-Z0-9-]\x7b1,59\x7d$"
  flags := .none
  node := .either
    (.sequence (.anchor .textStart) (.sequence (.repeated .greedy 2 (some 63)
      (.single plainly (.set false [.range 97 122, .range 65 90]))) (.anchor .finalEnd)))
    (.sequence (.anchor .textStart) (spellOut "xn--".toList
      (.sequence (.repeated .greedy 1 (some 59)
        (.single plainly (.set false (endSet false ++ [.code 45])))) (.anchor .finalEnd))))

lemma read_topPattern : Pattern.read topPattern.source .none = .ok topPattern := by
  decide +kernel

/-- The last labels are those that the pattern finds. -/
theorem isTopLabel_eq_search (s : List Char) :
    isTopLabel s = topPattern.search (String.ofList s) := by
  have hletters : Spells (.repeated .greedy 2 (some 63)
      (.single plainly (.set false [.range 97 122, .range 65 90]))) fun w =>
        2 ≤ w.length ∧ w.length ≤ 63 ∧ ∀ c ∈ w, c.isAlpha = true := by
    have hholds : ∀ c, (Single.set false [.range 97 122, .range 65 90]).holds plainly c = true ↔
        c.isAlpha = true := by
      intro c
      rw [plainly, holds_set, isAlpha_iff]
      simp [SetItem.plainHolds]
    refine (Spells.run _ _ _).congr fun w => ?_
    simp only [hholds, Option.some.injEq, forall_eq']
  have hname : Spells (.repeated .greedy 1 (some 59)
      (.single plainly (.set false (endSet false ++ [.code 45])))) fun w =>
        1 ≤ w.length ∧ w.length ≤ 59 ∧ ∀ c ∈ w, c.isAlphanum = true ∨ c = '-' := by
    refine (Spells.run _ _ _).congr fun w => ?_
    simp only [holds_innerSet, isLabelEnd, Bool.false_eq_true, if_false, Option.some.injEq,
      forall_eq']
  rw [Bool.eq_iff_iff, isTopLabel_iff, search_iff rfl,
    ← exists_line_iff fun w (hw : TopForm w) => hw.notMem_lineFeed]
  simp only [topPattern, Node.ReadsFromStart, exists_or, reads_spellOut_iff,
    hletters.exists_end_iff, hname.exists_end_iff, TopForm, and_or_left]
  refine or_congr_right ⟨?_, ?_⟩
  · rintro ⟨_, rest, rfl, hend, name, rfl, hform⟩
    exact ⟨name ++ rest, List.append_assoc _ _ _, name, rest, rfl, hend, hform⟩
  · rintro ⟨_, rfl, name, rest, rfl, hend, hform⟩
    exact ⟨_, rest, (List.append_assoc _ _ _).symm, hend, name, rfl, hform⟩

end Format

open Format StringRule

lemma domain_accepts_iff {store : Store} {prefs : Preferences} {env : Environment}
    {o : DomainOptions} {s : List Char} : (domain o).Accepts store prefs env s ↔ isDomain o s = .ok true := by
  rw [Accepts, gives_iff, check, String.toList_ofList]
  cases isDomain o s with
  | error f => exact iff_of_false (by rintro ⟨⟩) (by rintro ⟨⟩)
  | ok holds =>
    cases holds with
    | true => exact iff_of_true rfl rfl
    | false => exact iff_of_false (by rintro ⟨⟩) (by rintro ⟨⟩)

/-- The operation adds the rule of its options. This accepts well-formed labels with dots between
them, each of which a line feed may follow, and any number of dots at the end. So it accepts all
names that are well formed, and no others of those without line feeds and without two dots at the
end. -/
theorem domain_accepts (store : Store) (prefs : Preferences) (env : Environment) (options : Entries)
    (s : List Char) :
    let rule := domain (domainOptions options)
    rule.AddedBy "domain" [.object options] ∧
    (rule.Accepts store prefs env s ↔ ∃ dots, DomainText options dropFinalLineFeed dots s) ∧
    ((∃ dots ≤ 1, DomainText options id dots s) → rule.Accepts store prefs env s) ∧
    ('\n' ∉ s → ¬['.', '.'] <:+ s → rule.Accepts store prefs env s →
      ∃ dots ≤ 1, DomainText options id dots s) := by
  intro rule
  have haccepts : rule.Accepts store prefs env s ↔ _ := domain_accepts_iff.trans isDomain_iff
  refine ⟨fun _ _ => rfl, haccepts, ?_, fun hline hdots haccepted => ?_⟩
  · rintro ⟨dots, -, htext⟩
    exact haccepts.mpr ⟨dots, htext.of_whole⟩
  · obtain ⟨dots, htext⟩ := haccepts.mp haccepted
    exact ⟨dots, htext.dots_le_one hdots, htext.whole hline⟩

theorem domain_accepts_root :
    let name := "example.com.".toList
    '\n' ∉ name ∧ ¬['.', '.'] <:+ name ∧
      (domain (domainOptions [])).Accepts .empty ⟨false, false⟩ .epoch name ∧
        ∃ dots ≤ 1, DomainText [] id dots name := by
  intro name
  have hline : '\n' ∉ name := by decide
  have hdots : ¬['.', '.'] <:+ name := by decide
  obtain ⟨-, -, hsound, hcomplete⟩ :=
    domain_accepts .empty ⟨false, false⟩ .epoch [] name
  have hlabels : ∀ w ∈ ["example", "com"].map String.toList,
      LabelForm (domainOptions []).allowUnicode w :=
    List.forall_mem_cons.mpr ⟨isLabel_iff.mp (by decide : isLabel true "example".toList = true),
      List.forall_mem_singleton.mpr (isLabel_iff.mp (by decide : isLabel true "com".toList = true))⟩
  have htop : TopForm "com".toList := isTopLabel_iff.mp (by decide : isTopLabel "com".toList = true)
  have htext : DomainText [] id 1 name := ⟨by decide, ["example", "com"].map String.toList,
    "com".toList, rfl, hlabels, ⟨Nat.le_refl 2, Or.inl rfl⟩, rfl, htop⟩
  have haccepted := hsound ⟨1, Nat.le_refl 1, htext⟩
  exact ⟨hline, hdots, haccepted, hcomplete hline hdots haccepted⟩

/-- A name and a line feed are accepted, but they are not well formed. -/
theorem not_domain_accepts : ¬∀ (store : Store) (prefs : Preferences) (env : Environment)
    (options : Entries) (s : List Char),
      (domain (domainOptions options)).Accepts store prefs env s →
        ∃ dots ≤ 1, DomainText options id dots s := by
  intro hall
  have hlabels : ∀ w ∈ ["example", "com\n"].map String.toList,
      LabelForm (domainOptions []).allowUnicode (dropFinalLineFeed w) :=
    List.forall_mem_cons.mpr ⟨isLabel_iff.mp (by decide : isLabel true "example".toList = true),
      List.forall_mem_singleton.mpr
        (isLabel_iff.mp (by decide : isLabel true "com\n".toList = true))⟩
  have htext : DomainText [] dropFinalLineFeed 0 "example.com\n".toList :=
    ⟨by decide, ["example", "com\n"].map String.toList, "com\n".toList, rfl, hlabels,
      ⟨Nat.le_refl 2, Or.inl rfl⟩, rfl, isTopLabel_iff.mp (by decide)⟩
  obtain ⟨dots, -, -, parts, top, hs, hparts, -, htop, -⟩ := hall .empty ⟨false, false⟩
    .epoch [] _ (domain_accepts_iff.mpr (isDomain_iff.mpr ⟨0, htext⟩))
  have hsplit : labels "example.com\n".toList = parts := by
    rw [hs]
    exact labels_intercalate (fun w hw => (hparts w hw).notMem (isLabelEnd_dot _) (by decide)) htop
      (hparts top (List.mem_of_getLast? htop)).ne_nil dots
  have hlast : "com\n".toList ∈ parts := hsplit ▸ by decide
  exact (hparts _ hlast).notMem (isLabelEnd_lineFeed _) (by decide) (by decide)

end InputGuard

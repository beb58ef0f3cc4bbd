import InputGuard.Directive.Compile
import InputGuard.Proofs.CharacterClasses
import InputGuard.Proofs.DeclaredValues
import InputGuard.Proofs.Outcomes
import Mathlib.Tactic.FinCases

/-!
# Shapes of GUIDs

A GUID is groups of hexadecimal digits joined by one mark. The pattern remembers the first mark and
refers to it before the other groups, so that it finds the texts with the same mark throughout. No
mark is a hexadecimal digit, and thus the thirteenth digit of the text is the first of the third
group.
-/

namespace InputGuard

namespace Format

variable {sep : GuidSeparator} {mark s t : List Char} {sizes : List ℕ}

/-- So many hexadecimal digits. -/
def HexGroup (n : ℕ) (g : List Char) : Prop := g.length = n ∧ ∀ c ∈ g, isHexDigit c = true

/-- Groups of hexadecimal digits of the given sizes. -/
def HexGroups (sizes : List ℕ) (groups : List (List Char)) : Prop :=
  List.Forall₂ HexGroup sizes groups

lemma exists_hexGroups_cons_iff {n : ℕ} {P : List (List Char) → Prop} :
    (∃ groups, HexGroups (n :: sizes) groups ∧ P groups) ↔
      ∃ g groups, HexGroup n g ∧ HexGroups sizes groups ∧ P (g :: groups) := by
  simp only [HexGroups, List.forall₂_cons_left_iff]
  constructor
  · rintro ⟨_, ⟨g, groups, hg, hgroups, rfl⟩, hP⟩
    exact ⟨g, groups, hg, hgroups, hP⟩
  · rintro ⟨g, groups, hg, hgroups, hP⟩
    exact ⟨_, ⟨g, groups, hg, hgroups, rfl⟩, hP⟩

/-- A group at the start of a text is made of its first characters. -/
lemma startsWithGroup_iff (n : ℕ) (follows : List Char → Bool) :
    ((s.take n).length == n && (s.take n).all isHexDigit && follows (s.drop n)) = true ↔
      ∃ g rest, s = g ++ rest ∧ HexGroup n g ∧ follows rest = true := by
  rw [Bool.and_eq_true, Bool.and_eq_true, beq_iff_eq, List.all_eq_true]
  constructor
  · rintro ⟨hg, hfollows⟩
    exact ⟨_, _, (List.take_append_drop n s).symm, hg, hfollows⟩
  · rintro ⟨g, rest, rfl, ⟨rfl, hg⟩, hfollows⟩
    rw [List.take_left, List.drop_left]
    exact ⟨⟨rfl, hg⟩, hfollows⟩

/-- Groups with a mark before each of them. -/
lemma hexGroups_eq_true_iff : hexGroups mark sizes s = true ↔
    ∃ groups, HexGroups sizes groups ∧ s = groups.flatMap (mark ++ ·) := by
  induction sizes generalizing s with
  | nil =>
    rw [hexGroups, List.isEmpty_iff]
    constructor
    · rintro rfl
      exact ⟨[], .nil, rfl⟩
    · rintro ⟨_, ⟨⟩, rfl⟩
      rfl
  | cons n sizes ih =>
    rw [hexGroups, Bool.and_eq_true, List.isPrefixOf_iff_prefix, startsWithGroup_iff,
      exists_hexGroups_cons_iff]
    simp only [ih]
    constructor
    · rintro ⟨⟨r, rfl⟩, g, rest, hrest, hg, groups, hgroups, rfl⟩
      rw [List.drop_left] at hrest
      exact ⟨g, groups, hg, hgroups, by rw [hrest, List.flatMap_cons, List.append_assoc]⟩
    · rintro ⟨g, groups, hg, hgroups, rfl⟩
      rw [List.flatMap_cons, List.append_assoc, List.drop_left]
      exact ⟨List.prefix_append _ _, g, _, rfl, hg, groups, hgroups, rfl⟩

lemma intercalate_cons (mark g : List Char) (groups : List (List Char)) :
    mark.intercalate (g :: groups) = g ++ groups.flatMap (mark ++ ·) := by
  induction groups generalizing g with
  | nil => rw [List.intercalate_singleton, List.flatMap_nil, List.append_nil]
  | cons g' groups ih =>
    rw [List.flatMap_cons, List.append_assoc, ← ih g', List.intercalate_cons_cons,
      List.append_assoc]

/-- The marks that a separator stands for. -/
def GuidSeparator.marks : GuidSeparator → List (List Char)
  | absent => [[]]
  | dashOrColon => [['-'], [':']]
  | text s => [s.toList]

/-- Groups of eight, four, four, four and twelve hexadecimal digits that one of the marks joins. -/
def GuidGroups (marks : List (List Char)) (t : List Char) (groups : List (List Char)) : Prop :=
  HexGroups [8, 4, 4, 4, 12] groups ∧ ∃ mark ∈ marks, t = mark.intercalate groups

lemma exists_guidGroups_iff {marks : List (List Char)} : (∃ groups, GuidGroups marks t groups) ↔
    ∃ g rest, t = g ++ rest ∧ HexGroup 8 g ∧ ∃ mark ∈ marks, ∃ groups,
      HexGroups [4, 4, 4, 12] groups ∧ rest = groups.flatMap (mark ++ ·) := by
  simp only [GuidGroups, exists_hexGroups_cons_iff (n := 8), intercalate_cons]
  constructor
  · rintro ⟨g, groups, hg, hgroups, mark, hmark, rfl⟩
    exact ⟨g, _, rfl, hg, mark, hmark, groups, hgroups, rfl⟩
  · rintro ⟨g, _, rfl, hg, mark, hmark, groups, hgroups, rfl⟩
    exact ⟨g, groups, hg, hgroups, mark, hmark, rfl⟩

lemma read?_eq_some_iff : sep.read? s = some mark ↔ mark ∈ sep.marks ∧ mark <+: s := by
  cases sep with
  | absent =>
    simp only [GuidSeparator.read?, GuidSeparator.marks, Option.some.injEq, List.mem_singleton]
    constructor
    · rintro rfl
      exact ⟨rfl, List.nil_prefix⟩
    · exact fun h => h.1.symm
  | dashOrColon =>
    cases s with
    | nil =>
      refine iff_of_false (fun h => by cases h) ?_
      simp only [GuidSeparator.marks, List.mem_cons, List.not_mem_nil, or_false]
      rintro ⟨rfl | rfl, hstarts⟩ <;> cases List.prefix_nil.mp hstarts
    | cons c s =>
      simp only [GuidSeparator.read?, GuidSeparator.marks, Option.ite_none_right_eq_some,
        Option.some.injEq, Bool.or_eq_true, decide_eq_true_iff, List.mem_cons, List.not_mem_nil,
        or_false]
      constructor
      · rintro ⟨rfl | rfl, rfl⟩ <;> simp
      · rintro ⟨rfl | rfl, hstarts⟩ <;> obtain ⟨rfl, -⟩ := List.cons_prefix_cons.mp hstarts <;> simp
  | text t =>
    simp only [GuidSeparator.read?, GuidSeparator.marks, Option.ite_none_right_eq_some,
      Option.some.injEq, List.mem_singleton, List.isPrefixOf_iff_prefix]
    constructor
    · rintro ⟨hstarts, rfl⟩
      exact ⟨rfl, hstarts⟩
    · rintro ⟨rfl, hstarts⟩
      exact ⟨hstarts, rfl⟩

/-- The mark before the second group is one that all the groups after it can have. -/
lemma exists_mark_iff {n : ℕ} : (match sep.read? s with
    | some mark => hexGroups mark (n :: sizes) s
    | none => false) = true ↔ ∃ mark ∈ sep.marks, hexGroups mark (n :: sizes) s = true := by
  constructor
  · intro h
    split at h
    · rename_i mark hread
      exact ⟨mark, (read?_eq_some_iff.mp hread).1, h⟩
    · cases h
  · rintro ⟨mark, hmark, h⟩
    have hstarts : mark <+: s := by
      rw [hexGroups, Bool.and_eq_true] at h
      exact List.isPrefixOf_iff_prefix.mp h.1
    rw [read?_eq_some_iff.mpr ⟨hmark, hstarts⟩]
    exact h

lemma isGuidBody_iff : isGuidBody sep s = true ↔
    ∃ groups, GuidGroups sep.marks (dropFinalLineFeed s) groups := by
  rw [exists_guidGroups_iff]
  refine (startsWithGroup_iff 8 fun rest => match sep.read? rest with
    | some mark => hexGroups mark [4, 4, 4, 12] rest
    | none => false).trans ?_
  simp only [exists_mark_iff, hexGroups_eq_true_iff]

/-- The first digit of the third group is one of the versions, if there are any. -/
def OfVersion (versions : List Char) (groups : List (List Char)) : Prop :=
  versions = [] ∨ ∃ g d, groups[2]? = some g ∧ g.head? = some d ∧ d ∈ versions

variable {versions : List Char} {marks groups : List (List Char)}

lemma filter_flatMap (hmark : ∀ c ∈ mark, isHexDigit c = false) (h : HexGroups sizes groups) :
    (groups.flatMap (mark ++ ·)).filter isHexDigit = groups.flatten := by
  induction h with
  | nil => rfl
  | cons hg _ ih =>
    have hnone : mark.filter isHexDigit = [] := by simpa [List.filter_eq_nil_iff] using hmark
    rw [List.flatMap_cons, List.filter_append, List.filter_append, ih, hnone,
      List.filter_eq_self.mpr hg.2]
    rfl

/-- Eight digits of the first group and four of the second come before the third group. -/
lemma getElem?_twelve (hmarks : ∀ mark ∈ marks, ∀ c ∈ mark, isHexDigit c = false)
    (h : GuidGroups marks t groups) :
    (t.filter isHexDigit)[12]? = groups[2]?.bind List.head? := by
  obtain ⟨hgroups, mark, hmark, rfl⟩ := h
  match groups, hgroups with
  | a :: b :: c :: rest, .cons ha (.cons hb (.cons hc hrest)) =>
    have hdigits : (mark.intercalate (a :: b :: c :: rest)).filter isHexDigit =
        a ++ (b ++ (c ++ rest.flatten)) := by
      rw [intercalate_cons, List.filter_append, List.filter_eq_self.mpr ha.2,
        filter_flatMap (hmarks mark hmark) (.cons hb (.cons hc hrest))]
      rfl
    have hpos : 0 < c.length := by
      rw [hc.1]
      decide
    rw [hdigits, List.getElem?_append_right (by rw [ha.1]; decide), ha.1,
      List.getElem?_append_right (by rw [hb.1]), hb.1, List.getElem?_append_left hpos,
      ← List.head?_eq_getElem?]
    rfl

lemma filter_dropFinalLineFeed (s : List Char) :
    (dropFinalLineFeed s).filter isHexDigit = s.filter isHexDigit := by
  rcases eq_dropFinalLineFeed_or s with heq | heq
  · rw [← heq]
  · conv_rhs => rw [heq, List.filter_append]
    exact (List.append_nil _).symm

lemma hasVersion_iff (hmarks : ∀ mark ∈ marks, ∀ c ∈ mark, isHexDigit c = false)
    (h : GuidGroups marks (dropFinalLineFeed s) groups) :
    hasVersion versions s = true ↔ OfVersion versions groups := by
  rw [hasVersion, ← filter_dropFinalLineFeed, getElem?_twelve hmarks h, OfVersion, Bool.or_eq_true,
    List.isEmpty_iff]
  refine or_congr_right ?_
  cases hg : groups[2]? with
  | none => simp
  | some g => cases hd : g.head? <;> simp [hd]

/-- What stands between braces, or a text that does not stand between them. -/
def Bare (s body : List Char) : Prop :=
  s = '\x7b' :: (body ++ ['\x7d']) ∨ body = s ∧ ∀ inner, s ≠ '\x7b' :: (inner ++ ['\x7d'])

lemma dropBraces_braced (inner : List Char) :
    dropBraces ('\x7b' :: (inner ++ ['\x7d'])) = inner := by
  have hlast : ('\x7b' :: (inner ++ ['\x7d'])).getLast? = some '\x7d' := by
    rw [← List.cons_append, List.getLast?_concat]
  rw [dropBraces, if_pos (by rw [hlast]; rfl), List.drop_one, List.tail_cons, List.dropLast_concat]

lemma dropBraces_of_ne (h : ∀ inner, s ≠ '\x7b' :: (inner ++ ['\x7d'])) : dropBraces s = s := by
  rw [dropBraces, if_neg]
  rw [Bool.and_eq_true, decide_eq_true_iff, decide_eq_true_iff]
  rintro ⟨hhead, hlast⟩
  obtain ⟨init, rfl⟩ := List.getLast?_eq_some_iff.mp hlast
  cases init with
  | nil => cases hhead
  | cons c inner =>
    obtain rfl := Option.some.inj hhead
    exact h inner rfl

lemma bare_iff {body : List Char} : Bare s body ↔ body = dropBraces s := by
  by_cases h : ∃ inner, s = '\x7b' :: (inner ++ ['\x7d'])
  · obtain ⟨inner, rfl⟩ := h
    rw [dropBraces_braced]
    constructor
    · rintro (heq | ⟨-, hne⟩)
      · exact (List.append_cancel_right (List.cons.inj heq).2).symm
      · exact absurd rfl (hne inner)
    · rintro rfl
      exact Or.inl rfl
  · rw [not_exists] at h
    rw [dropBraces_of_ne h]
    constructor
    · rintro (heq | ⟨heq, -⟩)
      · exact absurd heq (h body)
      · exact heq
    · exact fun heq => Or.inr ⟨heq, h⟩

lemma isGuid_iff {o : GuidOptions}
    (hmarks : ∀ mark ∈ o.separator.marks, ∀ c ∈ mark, isHexDigit c = false) :
    isGuid o s = true ↔ ∃ body groups, Bare s body ∧
      GuidGroups o.separator.marks (dropFinalLineFeed body) groups ∧
        OfVersion o.versions groups := by
  simp only [bare_iff, isGuid, Bool.and_eq_true, isGuidBody_iff]
  constructor
  · rintro ⟨⟨groups, hgroups⟩, hversion⟩
    exact ⟨_, groups, rfl, hgroups, (hasVersion_iff hmarks hgroups).mp hversion⟩
  · rintro ⟨_, groups, rfl, hgroups, hversion⟩
    exact ⟨⟨groups, hgroups⟩, (hasVersion_iff hmarks hgroups).mpr hversion⟩

open Pattern

/-- So many hexadecimal digits, in a pattern. -/
def hexBlock (n : ℕ) : Node :=
  .repeated .greedy n (some n)
    (.single plainly (.set false [.range 48 57, .range 97 102, .range 65 70]))

/-- Blocks with something before each of them, and the end of the text. -/
def markedBlocks (before : Node → Node) : List ℕ → Node
  | [] => .anchor .finalEnd
  | n :: sizes => before (.sequence (hexBlock n) (markedBlocks before sizes))

/-- The nodes of GUIDs, whose first mark is remembered if there are marks. -/
def guidNode (mark? : Option Single) : Node :=
  .sequence (.anchor .textStart) <|
    match mark? with
    | none => markedBlocks id [8, 4, 4, 4, 12]
    | some mark => .sequence (hexBlock 8) (.sequence (.group 1 (.single plainly mark))
        (.sequence (hexBlock 4) (markedBlocks (.sequence (.reference plainly 1)) [4, 4, 12])))

/-- The separators that can be asked for by name and their patterns. -/
def guidPatterns : List (GuidSeparator × Pattern) := [
  (.absent, ⟨"^[0-9a-fA-F]\x7b8\x7d[0-9a-fA-F]\x7b4\x7d[0-9a-fA-F]\x7b4\x7d[0-9a-fA-F]\x7b4\x7d[0-9a-fA-F]\x7b12\x7d$",
    .none, guidNode none⟩),
  (.dashOrColon, ⟨"^[0-9a-fA-F]\x7b8\x7d([:-])[0-9a-fA-F]\x7b4\x7d\\1[0-9a-fA-F]\x7b4\x7d\\1[0-9a-fA-F]\x7b4\x7d\\1[0-9a-fA-F]\x7b12\x7d$",
    .none, guidNode (some (.set false [.code 58, .code 45]))⟩),
  (.text ":", ⟨"^[0-9a-fA-F]\x7b8\x7d(:)[0-9a-fA-F]\x7b4\x7d\\1[0-9a-fA-F]\x7b4\x7d\\1[0-9a-fA-F]\x7b4\x7d\\1[0-9a-fA-F]\x7b12\x7d$",
    .none, guidNode (some (.code false 58))⟩),
  (.text "-", ⟨"^[0-9a-fA-F]\x7b8\x7d(\\-)[0-9a-fA-F]\x7b4\x7d\\1[0-9a-fA-F]\x7b4\x7d\\1[0-9a-fA-F]\x7b4\x7d\\1[0-9a-fA-F]\x7b12\x7d$",
    .none, guidNode (some (.code false 45))⟩)]

lemma read_guidPatterns : ∀ e ∈ guidPatterns, Pattern.read e.2.source .none = .ok e.2 := by
  simp only [guidPatterns, List.forall_mem_cons]
  refine ⟨?_, ?_, ?_, ?_, List.forall_mem_nil _⟩ <;> decide +kernel

section Reads

variable {captures : List (ℕ × List Char)} {n : ℕ} {next : Node} {before : Node → Node}

lemma reads_block_iff : (∃ q, (Node.sequence (hexBlock n) next).Reads ⟨s, captures⟩ q) ↔
    ∃ g rest, s = g ++ rest ∧ HexGroup n g ∧ ∃ q, next.Reads ⟨rest, captures⟩ q := by
  have hholds : ∀ c, (Single.set false [.range 48 57, .range 97 102, .range 65 70]).holds plainly c
      = isHexDigit c := by
    intro c
    rw [plainly, holds_set, Bool.eq_iff_iff, isHexDigit_iff]
    simp [SetItem.plainHolds, or_assoc]
  constructor
  · rintro ⟨q, ⟨rest, captures'⟩, hblock, hq⟩
    obtain ⟨g, hs, hleast, hmost, hg, hcaptures⟩ := Node.reads_run_iff.mp hblock
    obtain rfl : captures' = captures := hcaptures
    simp only [hholds] at hg
    exact ⟨g, rest, hs, ⟨Nat.le_antisymm (hmost n rfl) hleast, hg⟩, q, hq⟩
  · rintro ⟨g, rest, hs, ⟨hlength, hg⟩, q, hq⟩
    refine ⟨q, ⟨rest, captures⟩, Node.reads_run_iff.mpr ⟨g, hs, hlength.ge, ?_, ?_, rfl⟩, hq⟩
    · rintro m ⟨⟩
      exact hlength.le
    · simpa only [hholds] using hg

/-- What comes before a node takes just the mark. -/
def Precedes (before : Node → Node) (mark : List Char) (captures : List (ℕ × List Char)) : Prop :=
  ∀ next s q, (before next).Reads ⟨s, captures⟩ q ↔
    ∃ rest, s = mark ++ rest ∧ next.Reads ⟨rest, captures⟩ q

lemma precedes_id : Precedes id [] captures := by
  intro next s q
  simp only [List.nil_append, exists_eq_left', id_eq]

lemma precedes_reference : Precedes (.sequence (.reference plainly 1)) mark [(1, mark)] := by
  intro next s q
  have hsame : ∀ w : List Char, w.map plainly.key = w := fun w => List.map_id w
  constructor
  · rintro ⟨⟨rest, _⟩, ⟨w, w', hw, hs, hkeys, rfl⟩, hq⟩
    obtain rfl : mark = w := Option.some.inj hw
    rw [hsame, hsame] at hkeys
    exact ⟨rest, hkeys ▸ hs, hq⟩
  · rintro ⟨rest, hs, hq⟩
    exact ⟨⟨rest, [(1, mark)]⟩, ⟨mark, mark, rfl, hs, rfl, rfl⟩, hq⟩

/-- Blocks take groups with the mark before each of them, up to the end. -/
lemma reads_markedBlocks_iff (h : Precedes before mark captures) :
    (∃ q, (markedBlocks before sizes).Reads ⟨s, captures⟩ q) ↔ ∃ groups rest,
      HexGroups sizes groups ∧ s = groups.flatMap (mark ++ ·) ++ rest ∧
        (rest = [] ∨ rest = ['\n']) := by
  induction sizes generalizing s with
  | nil =>
    constructor
    · rintro ⟨q, hend, -⟩
      exact ⟨[], s, .nil, rfl, hend⟩
    · rintro ⟨_, rest, ⟨⟩, rfl, hend⟩
      exact ⟨_, hend, rfl⟩
  | cons n sizes ih =>
    simp only [markedBlocks, h _ s]
    constructor
    · rintro ⟨q, r, rfl, hq⟩
      obtain ⟨g, r', rfl, hg, hnext⟩ := reads_block_iff.mp ⟨q, hq⟩
      obtain ⟨groups, rest, hgroups, rfl, hend⟩ := ih.mp hnext
      exact ⟨g :: groups, rest, .cons hg hgroups, by simp, hend⟩
    · rintro ⟨_, rest, hgroups, rfl, hend⟩
      cases hgroups with
      | @cons _ g _ groups hg hgroups =>
        obtain ⟨q, hq⟩ := reads_block_iff.mpr
          ⟨g, _, rfl, hg, ih.mpr ⟨groups, rest, hgroups, rfl, hend⟩⟩
        exact ⟨q, _, by simp, hq⟩

/-- A mark that is remembered stands before the second group and before the others. -/
lemma reads_mark_iff {single : Single} : (∃ q, (Node.sequence (.group 1 (.single plainly single))
      (.sequence (hexBlock 4) (markedBlocks (.sequence (.reference plainly 1)) sizes))).Reads
        ⟨s, []⟩ q) ↔
    ∃ c, single.holds plainly c = true ∧ ∃ groups rest, HexGroups (4 :: sizes) groups ∧
      s = groups.flatMap ([c] ++ ·) ++ rest ∧ (rest = [] ∨ rest = ['\n']) := by
  constructor
  · rintro ⟨q, _, ⟨⟨r, _⟩, w, ⟨c, hs, hc, rfl⟩, hw, rfl⟩, hq⟩
    obtain rfl : s = c :: r := hs
    obtain rfl : [c] = w := List.append_cancel_right hw
    obtain ⟨g, _, rfl, hg, hnext⟩ := reads_block_iff.mp ⟨q, hq⟩
    obtain ⟨groups, rest, hgroups, rfl, hend⟩ :=
      (reads_markedBlocks_iff precedes_reference).mp hnext
    exact ⟨c, hc, g :: groups, rest, .cons hg hgroups, by simp, hend⟩
  · rintro ⟨c, hc, _, rest, hgroups, rfl, hend⟩
    cases hgroups with
    | @cons _ g _ groups hg hgroups =>
      obtain ⟨q, hq⟩ := reads_block_iff.mpr ⟨g, groups.flatMap ([c] ++ ·) ++ rest, rfl, hg,
        (reads_markedBlocks_iff precedes_reference).mpr ⟨groups, rest, hgroups, rfl, hend⟩⟩
      exact ⟨q, _, ⟨⟨g ++ (groups.flatMap ([c] ++ ·) ++ rest), []⟩, [c], ⟨c, by simp, hc, rfl⟩,
        by simp, rfl⟩, hq⟩

end Reads

/-- The marks that a set of characters may give, or that there are without one. -/
def MarkedBy (mark? : Option Single) (marks : List (List Char)) : Prop :=
  match mark? with
  | none => marks = [[]]
  | some single => ∀ mark, mark ∈ marks ↔ ∃ c, mark = [c] ∧ single.holds plainly c = true

/-- A GUID before the end of the text, by its first group. -/
lemma exists_guidLine_iff : (∃ w rest, s = w ++ rest ∧ (rest = [] ∨ rest = ['\n']) ∧
      ∃ groups, GuidGroups marks w groups) ↔
    ∃ g r, s = g ++ r ∧ HexGroup 8 g ∧ ∃ mark ∈ marks, ∃ groups rest,
      HexGroups [4, 4, 4, 12] groups ∧ r = groups.flatMap (mark ++ ·) ++ rest ∧
        (rest = [] ∨ rest = ['\n']) := by
  simp only [exists_guidGroups_iff]
  constructor
  · rintro ⟨_, rest, rfl, hend, g, _, rfl, hg, mark, hmark, groups, hgroups, rfl⟩
    exact ⟨g, _, List.append_assoc _ _ _, hg, mark, hmark, groups, rest, hgroups, rfl, hend⟩
  · rintro ⟨g, _, rfl, hg, mark, hmark, groups, rest, hgroups, rfl, hend⟩
    exact ⟨_, rest, (List.append_assoc _ _ _).symm, hend, g, _, rfl, hg, mark, hmark, groups,
      hgroups, rfl⟩

lemma reads_guidNode_iff {mark? : Option Single} (h : MarkedBy mark? marks) :
    (∃ q, (guidNode mark?).ReadsFromStart ⟨s, []⟩ q) ↔
      ∃ w rest, s = w ++ rest ∧ (rest = [] ∨ rest = ['\n']) ∧
        ∃ groups, GuidGroups marks w groups := by
  rw [exists_guidLine_iff]
  cases mark? with
  | none =>
    obtain rfl : marks = [[]] := h
    change (∃ q, (Node.sequence (hexBlock 8) (markedBlocks id [4, 4, 4, 12])).Reads ⟨s, []⟩ q) ↔ _
    simp only [reads_block_iff, reads_markedBlocks_iff precedes_id, List.mem_singleton,
      exists_eq_left]
  | some single =>
    have hmarks : ∀ mark, mark ∈ marks ↔ ∃ c, mark = [c] ∧ single.holds plainly c = true := h
    change (∃ q, (Node.sequence (hexBlock 8) _).Reads ⟨s, []⟩ q) ↔ _
    rw [reads_block_iff]
    refine exists_congr fun g => exists_congr fun r => and_congr_right fun _ =>
      and_congr_right fun _ => reads_mark_iff.trans ?_
    simp only [hmarks]
    constructor
    · rintro ⟨c, hc, hrest⟩
      exact ⟨_, ⟨c, rfl, hc⟩, hrest⟩
    · rintro ⟨_, ⟨c, rfl, hc⟩, hrest⟩
      exact ⟨c, hc, hrest⟩

lemma HexGroups.isHexDigit (h : HexGroups sizes groups) :
    ∀ g ∈ groups, ∀ c ∈ g, Format.isHexDigit c = true := by
  induction h with
  | nil => exact List.forall_mem_nil _
  | cons hg _ ih => exact List.forall_mem_cons.mpr ⟨hg.2, ih⟩

lemma GuidGroups.notMem_lineFeed (hmarks : ∀ mark ∈ marks, '\n' ∉ mark)
    (h : GuidGroups marks t groups) : '\n' ∉ t := by
  obtain ⟨hgroups, mark, hmark, rfl⟩ := h
  have hdigits : ∀ g ∈ groups, '\n' ∉ g := fun g hg hmem =>
    absurd (hgroups.isHexDigit g hg _ hmem) (by decide)
  cases hgroups with
  | cons =>
    simp only [intercalate_cons, List.mem_append, List.mem_flatMap]
    obtain ⟨hfirst, hothers⟩ := List.forall_mem_cons.mp hdigits
    rintro (hmem | ⟨g, hg, hmem | hmem⟩)
    · exact hfirst hmem
    · exact hmarks mark hmark hmem
    · exact hothers g hg hmem

/-- The marks of the patterns are those of the separators, and no line feeds. -/
lemma markedBy_guidPatterns : ∀ e ∈ guidPatterns, ∃ mark?, e.2.node = guidNode mark? ∧
    MarkedBy mark? e.1.marks ∧ ∀ mark ∈ e.1.marks, '\n' ∉ mark := by
  have hcode : ∀ (d : Char) (mark : List Char), mark ∈ [[d]] ↔
      ∃ c, mark = [c] ∧ (Single.code false d.toNat).holds plainly c = true := by
    intro d mark
    simp only [plainly, holds_code, beq_iff_eq, ← eq_iff_toNat, exists_eq_right,
      List.mem_singleton]
  have hset : ∀ mark, mark ∈ [['-'], [':']] ↔ ∃ c, mark = [c] ∧
      (Single.set false [.code 58, .code 45]).holds plainly c = true := by
    intro mark
    have hmember : ∀ c : Char, (Single.set false [.code 58, .code 45]).holds plainly c = true ↔
        c = '-' ∨ c = ':' := by
      intro c
      rw [plainly, holds_set, eq_iff_toNat, eq_iff_toNat]
      simp [SetItem.plainHolds, or_comm]
    simp [hmember, and_or_left, exists_or]
  simp only [guidPatterns, List.forall_mem_cons]
  exact ⟨⟨none, rfl, rfl, by decide⟩, ⟨some _, rfl, hset, by decide⟩,
    ⟨some _, rfl, hcode ':', by decide⟩, ⟨some _, rfl, hcode '-', by decide⟩,
    List.forall_mem_nil _⟩

/-- The bodies of GUIDs are those that the patterns find. -/
theorem isGuidBody_eq_search (s : List Char) :
    ∀ e ∈ guidPatterns, isGuidBody e.1 s = e.2.search (String.ofList s) := by
  intro e he
  obtain ⟨mark?, hnode, hmarked, hline⟩ := markedBy_guidPatterns e he
  have hanchored : e.2.node.isAnchored = true := by
    rw [hnode]
    cases mark? <;> rfl
  rw [Bool.eq_iff_iff, isGuidBody_iff, search_iff hanchored, hnode, reads_guidNode_iff hmarked,
    exists_line_iff]
  rintro w ⟨groups, hgroups⟩
  exact hgroups.notMem_lineFeed hline

end Format

open Defined DeclaredType

/-- A version as it is written in a directive. -/
def versionName (d : Char) : String := String.ofList ("UUIDV".toList ++ [d])

/-- The options of a GUID as they are written in a directive, each of which may be absent. -/
def guidLiteral (separator? : Option String) (versions? : Option (List Char)) : Literal :=
  .object ((versions?.map fun versions =>
      ("version", .list ((versions.map versionName).map .enum))).toList ++
    (separator?.map fun name => ("separator", .enum name)).toList)

/-- The separator of a name. -/
def namedSeparator : Option String → Format.GuidSeparator
  | some "NONE" => .absent
  | some "COLON" => .text ":"
  | some "DASH" => .text "-"
  | _ => .dashOrColon

variable {separator? : Option String} {versions? : Option (List Char)}

lemma values_enums (names : List String) :
    Literal.values (names.map .enum) = .ok (names.map .str) := by
  induction names with
  | nil => rfl
  | cons name names ih =>
    rw [List.map_cons, Literal.values, ih]
    rfl

lemma lowerAll_strs (names : List String) :
    lowerAll (names.map .str) = names.map fun name => .str (Unicode.lower name) := by
  induction names with
  | nil => rfl
  | cons name names ih =>
    rw [List.map_cons, lowerAll, ih]
    rfl

lemma value_guidLiteral (separator? : Option String) (versions? : Option (List Char)) :
    (guidLiteral separator? versions?).value = .ok (.object
      ((versions?.map fun versions =>
          ("version", .list ((versions.map versionName).map .str))).toList ++
        (separator?.map fun name => ("separator", .str name)).toList)) := by
  cases versions? <;> cases separator? <;>
    simp only [guidLiteral, Literal.value, Literal.entries, values_enums, Option.map_none,
      Option.map_some, Option.toList_none, Option.toList_some, List.nil_append,
      List.singleton_append] <;> rfl

/-- Versions are made small, and separators become what they stand for. -/
lemma read_guidOptions (h : ∀ name ∈ separator?, name ∈ (helper "GuidSeparator").symbols)
    (names? : Option (List Value)) : ∃ w? : Option Value,
    ArgumentForm.guidOptions.read (.object ((names?.map fun names =>
        ("version", .list names)).toList ++
        (separator?.map fun name => ("separator", .str name)).toList)) =
      .ok [.object ((names?.map fun names => ("version", .list (lowerAll names))).toList ++
        (w?.map (("separator", ·))).toList)] ∧
    StringRule.guidSeparator (w?.getD .null) = .ok (namedSeparator separator?) := by
  cases separator? with
  | none => exact ⟨none, by cases names? <;> rfl, rfl⟩
  | some name =>
    have hname : name ∈ ["NONE", "COLON", "DASH", "COLON_OR_DASH"] := h name rfl
    fin_cases hname
    · exact ⟨some (.bool false), by cases names? <;> rfl, rfl⟩
    · exact ⟨some (.str ":"), by cases names? <;> rfl, rfl⟩
    · exact ⟨some (.str "-"), by cases names? <;> rfl, rfl⟩
    · exact ⟨some (.bool true), by cases names? <;> rfl, rfl⟩

lemma guidVersion_versionName {d : Char} (h : versionName d ∈ (helper "GuidVersion").symbols) :
    StringRule.guidVersion (.str (Unicode.lower (versionName d))) = .ok d := by
  have hsymbols : (helper "GuidVersion").symbols = ['1', '2', '3', '4', '5'].map versionName := by
    decide
  rw [hsymbols] at h
  have hinjective : versionName.Injective := by
    intro c d hcd
    exact (List.cons.inj (List.append_cancel_left (String.ofList_inj.mp hcd))).1
  have hd := (List.mem_map_of_injective hinjective).mp h
  fin_cases hd <;> rfl

lemma mapM_guidVersion {versions : List Char}
    (h : ∀ d ∈ versions, versionName d ∈ (helper "GuidVersion").symbols) :
    (lowerAll ((versions.map versionName).map .str)).mapM StringRule.guidVersion =
      .ok versions := by
  rw [mapM_eq_ok, lowerAll_strs, List.forall₂_map_left_iff, List.forall₂_map_left_iff,
    List.forall₂_same]
  exact fun d hd => guidVersion_versionName (h d hd)

lemma guidOf_options {w? : Option Value} {separator : Format.GuidSeparator}
    (hversions : ∀ versions ∈ versions?, ∀ d ∈ versions,
      versionName d ∈ (helper "GuidVersion").symbols)
    (hseparator : StringRule.guidSeparator (w?.getD .null) = .ok separator) :
    StringRule.guidOf [.object ((versions?.map fun versions =>
        ("version", .list (lowerAll ((versions.map versionName).map .str)))).toList ++
      (w?.map (("separator", ·))).toList)] = .ok (.guid ⟨versions?.getD [], separator⟩) := by
  cases versions? with
  | none =>
    refine bind_eq_ok.mpr ⟨_, rfl, bind_eq_ok.mpr ⟨[], ?_, bind_eq_ok.mpr ⟨[], rfl,
      bind_eq_ok.mpr ⟨separator, ?_, rfl⟩⟩⟩⟩
    · cases w? <;> rfl
    · cases w? <;> exact hseparator
  | some versions =>
    have hparts : ∀ items, (Value.list items).optionalParts = .ok items := by
      intro items
      cases items <;> rfl
    refine bind_eq_ok.mpr ⟨_, rfl, bind_eq_ok.mpr ⟨_, congrArg lift (hparts _),
      bind_eq_ok.mpr ⟨versions, mapM_guidVersion (hversions versions rfl),
        bind_eq_ok.mpr ⟨separator, ?_, rfl⟩⟩⟩⟩
    cases w? <;> exact hseparator

lemma guid_addedBy {rule : StringRule} {args : List Value} (h : StringRule.guidOf args = .ok rule) :
    rule.AddedBy "guid" args := by
  intro settings rules
  change ((some <$> StringRule.guidOf args) >>= fun rule => pure (rule.map fun rule =>
    Schema.string settings (rules ++ [rule]))) = _
  rw [h]
  rfl

/-- An argument of a directive adds the rule of its operation. -/
lemma applyArgument_of_addedBy {rule : StringRule} {argument field : String} {literal : Literal}
    {m : Meaning} {v : Value} {args : List Value} {settings : Settings} {rules : List StringRule}
    (hmeaning : Meaning.ofArgument argument = m) (hcast : isCast argument = false)
    (happlies : m.applies (.string settings rules) = true) (hvalue : literal.value = .ok v)
    (hread : m.form.read v = .ok args) (hadded : rule.AddedBy m.operation args) :
    (Schema.string settings rules).applyArgument field (argument, literal) =
      .ok (.string settings (rules ++ [rule])) := by
  have hliteral : Schema.literalValue literal = .ok v := by rw [Schema.literalValue, hvalue]
  refine bind_eq_ok.mpr ⟨v, hliteral, ?_⟩
  rw [if_neg (by rw [hcast]; decide), hmeaning]
  refine bind_eq_ok.mpr ⟨args, by rw [hread]; rfl, ?_⟩
  rw [if_pos happlies, hadded]
  rfl

/-- The rule that the options of a directive give. -/
lemma applyArgument_guid {argument : String} (hargument : argument ∈ ["guid", "uuid"])
    (hseparator : ∀ name ∈ separator?, name ∈ (helper "GuidSeparator").symbols)
    (hversions : ∀ versions ∈ versions?, ∀ d ∈ versions,
      versionName d ∈ (helper "GuidVersion").symbols) (field : String) (settings : Settings)
    (rules : List StringRule) :
    (Schema.string settings rules).applyArgument field
      (argument, guidLiteral separator? versions?) =
        .ok (.string settings
          (rules ++ [.guid ⟨versions?.getD [], namedSeparator separator?⟩])) := by
  obtain ⟨w?, hread, hnamed⟩ := read_guidOptions hseparator
    (versions?.map fun versions => (versions.map versionName).map .str)
  rw [Option.map_map, Option.map_map] at hread
  have hadded := guid_addedBy (guidOf_options hversions hnamed)
  have hmeaning : Meaning.ofArgument argument = .plain "guid" .guidOptions := by
    fin_cases hargument <;> rfl
  have hcast : isCast argument = false := by
    fin_cases hargument <;> decide
  exact applyArgument_of_addedBy hmeaning hcast rfl (value_guidLiteral _ _) hread hadded

open Format StringRule

lemma guid_acceptsJust {store : Store} {prefs : Preferences} {env : Environment}
    {s versions : List Char} :
    (guid ⟨versions, namedSeparator separator?⟩).AcceptsJust store prefs env s "string.guid"
      (∃ body groups, Bare s body ∧
        GuidGroups (namedSeparator separator?).marks (dropFinalLineFeed body) groups ∧
          OfVersion versions groups) := by
  have hmarks : ∀ mark ∈ (namedSeparator separator?).marks, ∀ c ∈ mark, isHexDigit c = false := by
    unfold namedSeparator
    split <;> simp [GuidSeparator.marks] <;> decide
  refine acceptsJust_of_require .stringGuid (isGuid ⟨versions, namedSeparator separator?⟩ s) ?_
    (isGuid_iff hmarks)
  rw [check, String.toList_ofList]

/-- Whatever separator and versions a directive asks for, it adds one rule. This accepts five groups
of hexadecimal digits, joined by one of the marks that the separator stands for, of which the third
starts with one of the versions if there are any. The text may stand between braces, and a line feed
at its end is no part of it. -/
theorem guid_accepts (store : Store) (prefs : Preferences) (env : Environment) (field : String)
    (separator? : Option String) (versions? : Option (List Char))
    (hseparator : ∀ name ∈ separator?, name ∈ (helper "GuidSeparator").symbols)
    (hversions : ∀ versions ∈ versions?, ∀ d ∈ versions,
      versionName d ∈ (helper "GuidVersion").symbols) :
    ∃ rule : StringRule,
      (∀ argument ∈ ["guid", "uuid"], ∀ settings rules,
        (Schema.string settings rules).applyArgument field
          (argument, guidLiteral separator? versions?) = .ok (.string settings (rules ++ [rule]))) ∧
      ∀ s, rule.AcceptsJust store prefs env s "string.guid" (∃ body groups, Bare s body ∧
        GuidGroups (namedSeparator separator?).marks (dropFinalLineFeed body) groups ∧
          OfVersion (versions?.getD []) groups) :=
  ⟨_, fun _ hargument => applyArgument_guid hargument hseparator hversions field,
    fun _ => guid_acceptsJust⟩

theorem guid_accepts_braced :
    let guid := "\x7b6ba7b810-9dad-41d1-80b4-00c04fd430c8\x7d".toList
    (∀ name ∈ some "DASH", name ∈ (helper "GuidSeparator").symbols) ∧
      (∀ versions ∈ some ['4'], ∀ d ∈ versions, versionName d ∈ (helper "GuidVersion").symbols) ∧
      ∃ rule : StringRule, (Schema.string .plain []).applyArgument "id"
        ("guid", guidLiteral (some "DASH") (some ['4'])) = .ok (.string .plain [rule]) ∧
          rule.Accepts .empty ⟨false, false⟩ .epoch guid := by
  intro guid
  have hseparator : ∀ name ∈ some "DASH", name ∈ (helper "GuidSeparator").symbols := by decide
  have hversions : ∀ versions ∈ some ['4'], ∀ d ∈ versions,
      versionName d ∈ (helper "GuidVersion").symbols := by
    rintro _ ⟨⟩
    exact List.forall_mem_singleton.mpr (by decide)
  obtain ⟨rule, hadded, haccepts⟩ := guid_accepts .empty ⟨false, false⟩ .epoch "id"
    (some "DASH") (some ['4']) hseparator hversions
  have hgroup : ∀ g : String, g.toList.all isHexDigit = true → HexGroup g.toList.length g.toList :=
    fun g hg => ⟨rfl, List.all_eq_true.mp hg⟩
  have hgroups : HexGroups [8, 4, 4, 4, 12]
      (["6ba7b810", "9dad", "41d1", "80b4", "00c04fd430c8"].map String.toList) :=
    .cons (hgroup _ (by decide)) (.cons (hgroup _ (by decide)) (.cons (hgroup _ (by decide))
      (.cons (hgroup _ (by decide)) (.cons (hgroup _ (by decide)) .nil))))
  exact ⟨hseparator, hversions, rule, hadded "guid" List.mem_cons_self .plain [],
    (haccepts guid).accepts.mpr ⟨"6ba7b810-9dad-41d1-80b4-00c04fd430c8".toList, _,
      Or.inl (by decide), ⟨hgroups, ['-'], by decide, by decide⟩,
      Or.inr ⟨"41d1".toList, '4', rfl, rfl, by decide⟩⟩⟩

end InputGuard

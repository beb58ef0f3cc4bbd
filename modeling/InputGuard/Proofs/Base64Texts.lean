import InputGuard.Proofs.AcceptedTexts

/-!
# Base64 texts

A base64 text is characters of the alphabet in groups of four, the last of which may lack one or two
that `=` stands for, or nothing where padding is optional. The pattern, with its repeated groups and
its alternatives for the last one, finds just these, and so does the count of the characters. Among
them is what any bytes are written as, three in four characters.
-/

namespace InputGuard

namespace Format

/-- Whether so many padding characters can follow so many characters of the alphabet. -/
def PadFits (padded : Bool) (n pad : ℕ) : Prop :=
  n % 4 = 0 ∧ pad = 0 ∨ n % 4 = 2 ∧ (pad = 2 ∨ padded = false ∧ pad = 0) ∨
    n % 4 = 3 ∧ (pad = 1 ∨ padded = false ∧ pad = 0)

/-- Characters of the alphabet and padding that fits. -/
def Base64Form (o : Base64Options) (t : List Char) : Prop :=
  ∃ body pad, t = body ++ List.replicate pad '=' ∧ (∀ c ∈ body, isBase64Char o.urlSafe c = true) ∧
    PadFits o.padded body.length pad

variable {o : Base64Options} {urlSafe : Bool} {s t body : List Char} {n pad : ℕ}

lemma isBase64Char_iff {c : Char} : isBase64Char urlSafe c = true ↔ c.isAlphanum = true ∨
    c = (if urlSafe then '-' else '+') ∨ c = (if urlSafe then '_' else '/') := by
  unfold isBase64Char
  rw [Bool.or_eq_true]
  cases urlSafe <;> simp

lemma isBase64Char_pad (urlSafe : Bool) : isBase64Char urlSafe '=' = false := by
  cases urlSafe <;> decide

lemma isBase64Char_lineFeed (urlSafe : Bool) : isBase64Char urlSafe '\n' = false := by
  cases urlSafe <;> decide

lemma Base64Form.notMem_lineFeed (h : Base64Form o t) : '\n' ∉ t := by
  obtain ⟨body, pad, rfl, hbody, -⟩ := h
  intro hmem
  rcases List.mem_append.mp hmem with hmem | hmem
  · exact absurd (hbody _ hmem) (by rw [isBase64Char_lineFeed]; decide)
  · exact absurd (List.eq_of_mem_replicate hmem) (by decide)

/-- The characters of the alphabet end where the padding starts. -/
lemma takeWhile_dropWhile_pad (hbody : ∀ c ∈ body, isBase64Char urlSafe c = true) (pad : ℕ) :
    (body ++ List.replicate pad '=').takeWhile (isBase64Char urlSafe) = body ∧
      (body ++ List.replicate pad '=').dropWhile (isBase64Char urlSafe) =
        List.replicate pad '=' := by
  rw [List.takeWhile_append_of_pos hbody, List.dropWhile_append_of_pos hbody]
  cases pad with
  | zero => simp
  | succ pad => simp [List.replicate_succ, isBase64Char_pad]

lemma padFits_iff {padded : Bool} : (match n % 4 with
    | 0 => pad == 0
    | 2 => pad == 2 || (!padded && pad == 0)
    | 3 => pad == 1 || (!padded && pad == 0)
    | _ => false) = true ↔ PadFits padded n pad := by
  unfold PadFits
  have hlt : n % 4 < 4 := Nat.mod_lt n (by decide)
  generalize n % 4 = k at hlt
  match k, hlt with
  | 0, _ | 1, _ | 2, _ | 3, _ => simp

lemma isBase64_iff : isBase64 o s = true ↔ Base64Form o (dropFinalLineFeed s) := by
  unfold isBase64
  generalize dropFinalLineFeed s = t
  rw [Bool.and_eq_true, List.all_eq_true]
  refine (and_congr_right fun _ => padFits_iff).trans ⟨?_, ?_⟩
  · rintro ⟨hpad, hfits⟩
    refine ⟨_, _, ?_, List.all_eq_true.mp List.all_takeWhile, hfits⟩
    have hreplicate : t.dropWhile (isBase64Char o.urlSafe) =
        List.replicate (t.dropWhile (isBase64Char o.urlSafe)).length '=' :=
      List.eq_replicate_iff.mpr ⟨rfl, fun c hc => beq_iff_eq.mp (hpad c hc)⟩
    rw [← hreplicate, List.takeWhile_append_dropWhile]
  · rintro ⟨body, pad, rfl, hbody, hfits⟩
    obtain ⟨htake, hdrop⟩ := takeWhile_dropWhile_pad hbody pad
    rw [htake, hdrop, List.length_replicate]
    exact ⟨fun c hc => beq_iff_eq.mpr (List.eq_of_mem_replicate hc), hfits⟩

open Pattern

/-- A character of the alphabet, in a pattern. -/
def base64Single (urlSafe : Bool) : Node :=
  .single plainly (.set false [.range 65 90, .range 97 122, .range 48 57,
    .code (if urlSafe then 45 else 43), .code (if urlSafe then 95 else 47)])

def padSingle : Node := .single plainly (.code false 61)

/-- So many characters of the alphabet. -/
def base64Block (urlSafe : Bool) (n : ℕ) : Node :=
  .repeated .greedy n (some n) (base64Single urlSafe)

/-- What the last group may be if it lacks characters. -/
def base64Tail (o : Base64Options) : Node :=
  if o.padded then
    .either (.sequence (base64Block o.urlSafe 2) (.sequence padSingle padSingle))
      (.sequence (base64Block o.urlSafe 3) padSingle)
  else
    .either
      (.sequence (base64Block o.urlSafe 2)
        (.repeated .greedy 0 (some 1) (.group 1 (.sequence padSingle padSingle))))
      (.sequence (base64Block o.urlSafe 3) (.repeated .greedy 0 (some 1) padSingle))

/-- The pattern of base64 texts, as it is written. -/
def base64Source : Base64Options → String
  | ⟨true, false⟩ =>
    "^(?:[A-Za-z0-9+\\/]\x7b4\x7d)*(?:[A-Za-z0-9+\\/]\x7b2\x7d==|[A-Za-z0-9+\\/]\x7b3\x7d=)?$"
  | ⟨true, true⟩ =>
    "^(?:[A-Za-z0-9\\-_]\x7b4\x7d)*(?:[A-Za-z0-9\\-_]\x7b2\x7d==|[A-Za-z0-9\\-_]\x7b3\x7d=)?$"
  | ⟨false, false⟩ =>
    "^(?:[A-Za-z0-9+\\/]\x7b4\x7d)*(?:[A-Za-z0-9+\\/]\x7b2\x7d(==)?|[A-Za-z0-9+\\/]\x7b3\x7d=?)?$"
  | ⟨false, true⟩ =>
    "^(?:[A-Za-z0-9\\-_]\x7b4\x7d)*(?:[A-Za-z0-9\\-_]\x7b2\x7d(==)?|[A-Za-z0-9\\-_]\x7b3\x7d=?)?$"

def base64Pattern (o : Base64Options) : Pattern :=
  ⟨base64Source o, .none, .sequence (.anchor .textStart)
    (.sequence (.repeated .greedy 0 none (base64Block o.urlSafe 4))
      (.sequence (.repeated .greedy 0 (some 1) (base64Tail o)) (.anchor .finalEnd)))⟩

lemma read_base64Pattern (o : Base64Options) :
    Pattern.read (base64Source o) .none = .ok (base64Pattern o) := by
  match o with
  | ⟨true, false⟩ | ⟨true, true⟩ | ⟨false, false⟩ | ⟨false, true⟩ => decide +kernel

lemma base64Single_holds {c : Char} :
    (Single.set false [.range 65 90, .range 97 122, .range 48 57,
      .code (if urlSafe then 45 else 43), .code (if urlSafe then 95 else 47)]).holds plainly c =
        isBase64Char urlSafe c := by
  rw [plainly, holds_set, Bool.eq_iff_iff, isBase64Char_iff, isAlphanum_iff]
  cases urlSafe <;>
    simp [SetItem.plainHolds, eq_iff_toNat, or_assoc, or_left_comm]

lemma spells_block (urlSafe : Bool) (n : ℕ) : Spells (base64Block urlSafe n) fun w =>
    w.length = n ∧ ∀ c ∈ w, isBase64Char urlSafe c = true := by
  refine (Spells.run _ _ _).congr fun w => ?_
  simp only [base64Single_holds, Option.some.injEq, forall_eq']
  rw [← and_assoc, and_comm (a := n ≤ _), ← Nat.le_antisymm_iff]

/-- A node that spells numbers of padding characters. -/
def SpellsPads (node : Node) (K : ℕ → Prop) : Prop :=
  Spells node fun w => ∃ k, K k ∧ w = List.replicate k '='

lemma spells_pad : SpellsPads padSingle (· = 1) := by
  refine (Spells.single _ _).congr fun w => ?_
  have hpad : ∀ c : Char, (Single.code false 61).holds plainly c = true ↔ c = '=' := by
    intro c
    rw [plainly, holds_code, beq_iff_eq, eq_iff_toNat]
    exact Iff.rfl
  simp only [hpad, exists_eq_right, exists_eq_left, List.replicate_one]

lemma spells_pads : SpellsPads (.sequence padSingle padSingle) (· = 2) := by
  refine (spells_pad.sequence spells_pad).congr fun w => ?_
  simp only [exists_eq_left, List.replicate_one]
  constructor
  · rintro ⟨_, _, rfl, rfl, rfl⟩
    rfl
  · rintro rfl
    exact ⟨_, _, rfl, rfl, rfl⟩

lemma SpellsPads.optional {node : Node} {K : ℕ → Prop} (h : SpellsPads node K) :
    SpellsPads (.repeated .greedy 0 (some 1) node) fun k => k = 0 ∨ K k := by
  refine (Spells.optional _ h).congr fun w => ?_
  simp only [or_and_right, exists_or, exists_eq_left, List.replicate_zero]

/-- Characters of the alphabet and padding, at the end of the text. -/
lemma SpellsPads.last {node : Node} {K : ℕ → Prop} (h : SpellsPads node K) (urlSafe : Bool)
    (n : ℕ) : Spells (.sequence (base64Block urlSafe n) node) fun w => ∃ body pad,
      w = body ++ List.replicate pad '=' ∧ (∀ c ∈ body, isBase64Char urlSafe c = true) ∧
        body.length = n ∧ K pad := by
  refine ((spells_block urlSafe n).sequence h).congr fun w => ?_
  constructor
  · rintro ⟨body, _, rfl, ⟨hlength, hbody⟩, pad, hpad, rfl⟩
    exact ⟨body, pad, rfl, hbody, hlength, hpad⟩
  · rintro ⟨body, pad, rfl, hbody, hlength, hpad⟩
    exact ⟨body, _, rfl, ⟨hlength, hbody⟩, pad, hpad, rfl⟩

/-- What the last group may be: two characters and padding, or three. -/
lemma spells_tail (o : Base64Options) : Spells (base64Tail o) fun w => ∃ body pad,
    w = body ++ List.replicate pad '=' ∧ (∀ c ∈ body, isBase64Char o.urlSafe c = true) ∧
      (body.length = 2 ∧ (pad = 2 ∨ o.padded = false ∧ pad = 0) ∨
        body.length = 3 ∧ (pad = 1 ∨ o.padded = false ∧ pad = 0)) := by
  simp only [and_or_left, exists_or]
  unfold base64Tail
  cases o.padded with
  | true =>
    simp only [Bool.true_eq_false, false_and, and_false, or_false, exists_false]
    exact (spells_pads.last o.urlSafe 2).either (spells_pad.last o.urlSafe 3)
  | false =>
    have htwo : SpellsPads _ _ := (Spells.group 1 spells_pads)
    refine ((htwo.optional.last o.urlSafe 2).either (spells_pad.optional.last o.urlSafe 3)).congr
      fun w => ?_
    simp only [true_and, and_or_left, exists_or, or_comm]

/-- Texts of four characters each make up a text whose length is a multiple of four. -/
lemma exists_groups_iff {p : Char → Prop} {w : List Char} :
    (∃ parts : List (List Char), w = parts.flatten ∧ ∀ u ∈ parts, u.length = 4 ∧ ∀ c ∈ u, p c) ↔
      w.length % 4 = 0 ∧ ∀ c ∈ w, p c := by
  constructor
  · rintro ⟨parts, rfl, hparts⟩
    induction parts with
    | nil => exact ⟨rfl, nofun⟩
    | cons u parts ih =>
      obtain ⟨⟨hlength, hu⟩, hparts⟩ := List.forall_mem_cons.mp hparts
      obtain ⟨hrest, hall⟩ := ih hparts
      rw [List.flatten_cons, List.length_append, List.forall_mem_append]
      exact ⟨by omega, hu, hall⟩
  · rintro ⟨hlength, hall⟩
    obtain ⟨k, hk⟩ := Nat.dvd_of_mod_eq_zero hlength
    induction k generalizing w with
    | zero => exact ⟨[], List.length_eq_zero_iff.mp hk, nofun⟩
    | succ k ih =>
      obtain ⟨parts, hparts, hall'⟩ := ih (w := w.drop 4) (by rw [List.length_drop]; omega)
        (fun c hc => hall c (List.mem_of_mem_drop hc)) (by rw [List.length_drop]; omega)
      refine ⟨w.take 4 :: parts, ?_, List.forall_mem_cons.mpr ⟨⟨?_, ?_⟩, hall'⟩⟩
      · rw [List.flatten_cons, ← hparts, List.take_append_drop]
      · rw [List.length_take]
        omega
      · exact fun c hc => hall c (List.mem_of_mem_take hc)

lemma spells_groups (urlSafe : Bool) : Spells (.repeated .greedy 0 none (base64Block urlSafe 4))
    fun w => w.length % 4 = 0 ∧ ∀ c ∈ w, isBase64Char urlSafe c = true := by
  refine ((spells_block urlSafe 4).repeated _ _ _).congr fun w => ?_
  rw [← exists_groups_iff]
  refine exists_congr fun parts => and_congr_right fun _ => ?_
  exact (and_iff_right (Nat.zero_le _)).trans (and_iff_right nofun)

/-- Whole groups and a last one are characters of the alphabet and padding that fits. -/
lemma spells_base64 (o : Base64Options) :
    Spells (.sequence (.repeated .greedy 0 none (base64Block o.urlSafe 4))
      (.repeated .greedy 0 (some 1) (base64Tail o))) (Base64Form o) := by
  refine ((spells_groups o.urlSafe).sequence (Spells.optional _ (spells_tail o))).congr fun w => ?_
  constructor
  · rintro ⟨front, _, rfl, ⟨hlength, hfront⟩, rfl | ⟨body, pad, rfl, hbody, hfits⟩⟩
    · exact ⟨front, 0, rfl, hfront, Or.inl ⟨hlength, rfl⟩⟩
    · refine ⟨front ++ body, pad, (List.append_assoc _ _ _).symm,
        List.forall_mem_append.mpr ⟨hfront, hbody⟩, ?_⟩
      rw [List.length_append]
      rcases hfits with ⟨hbody, hpad⟩ | ⟨hbody, hpad⟩
      · exact Or.inr (Or.inl ⟨by omega, hpad⟩)
      · exact Or.inr (Or.inr ⟨by omega, hpad⟩)
  · rintro ⟨body, pad, rfl, hbody, hfits⟩
    have hwhole : 4 * (body.length / 4) ≤ body.length := Nat.mul_div_le _ _
    refine ⟨body.take (4 * (body.length / 4)), body.drop (4 * (body.length / 4)) ++
      List.replicate pad '=', by rw [← List.append_assoc, List.take_append_drop],
      ⟨by rw [List.length_take]; omega, fun c hc => hbody c (List.mem_of_mem_take hc)⟩, ?_⟩
    have hlast : body.length - 4 * (body.length / 4) = body.length % 4 := by omega
    rcases hfits with ⟨hzero, rfl⟩ | hfits
    · rw [List.drop_eq_nil_of_le (by omega)]
      exact Or.inl rfl
    · refine Or.inr ⟨_, pad, rfl, fun c hc => hbody c (List.mem_of_mem_drop hc), ?_⟩
      rw [List.length_drop, hlast]
      exact hfits

/-- The texts of groups are those that the pattern finds. -/
theorem isBase64_eq_search (o : Base64Options) (s : List Char) :
    isBase64 o s = (base64Pattern o).search (String.ofList s) := by
  have hanchored : (base64Pattern o).node.isAnchored = true := by
    match o with
    | ⟨true, _⟩ | ⟨false, _⟩ => rfl
  rw [Bool.eq_iff_iff, isBase64_iff]
  exact ((spells_base64 o).search_iff (fun _ hw => hw.notMem_lineFeed) hanchored
    fun _ => Spells.reads_assoc).symm

/-- The characters of the alphabet by their values. -/
def base64Alphabet (urlSafe : Bool) : List Char :=
  "ABCDEFGHIJKLMNOPQRSTUVWXYZabcdefghijklmnopqrstuvwxyz0123456789".toList ++
    if urlSafe then ['-', '_'] else ['+', '/']

/-- The numbers of six bits that bytes are cut into, with noughts at the end. -/
def sextets : List UInt8 → List ℕ
  | a :: b :: c :: rest =>
    a.toNat / 4 :: (a.toNat % 4 * 16 + b.toNat / 16) :: (b.toNat % 16 * 4 + c.toNat / 64) ::
      c.toNat % 64 :: sextets rest
  | [a, b] => [a.toNat / 4, a.toNat % 4 * 16 + b.toNat / 16, b.toNat % 16 * 4]
  | [a] => [a.toNat / 4, a.toNat % 4 * 16]
  | [] => []

/-- What bytes are written as, without padding. -/
def base64Unpadded (urlSafe : Bool) (bytes : List UInt8) : List Char :=
  (sextets bytes).map fun n => (base64Alphabet urlSafe).getD n '='

/-- What bytes are written as, with padding to a multiple of four characters. -/
def base64Text (urlSafe : Bool) (bytes : List UInt8) : List Char :=
  base64Unpadded urlSafe bytes ++ List.replicate ((3 - bytes.length % 3) % 3) '='

example : String.ofList (base64Text false [0x54, 0x4F, 0x4F, 0x3E]) = "VE9PPg==" := by decide

lemma mem_base64Alphabet {c : Char} :
    c ∈ base64Alphabet urlSafe ↔ isBase64Char urlSafe c = true := by
  constructor
  · revert c
    rw [← List.all_eq_true]
    cases urlSafe <;> decide
  · intro hc
    have hbasic : ∀ n < 128, isBase64Char urlSafe (Char.ofNat n) = true →
        Char.ofNat n ∈ base64Alphabet urlSafe := by
      cases urlSafe <;> decide
    have hlt : c.toNat < 128 := by
      rw [isBase64Char_iff, isAlphanum_iff] at hc
      rcases hc with hc | rfl | rfl
      · omega
      · cases urlSafe <;> decide
      · cases urlSafe <;> decide
    have hmem := hbasic c.toNat hlt
    rw [Char.ofNat_toNat] at hmem
    exact hmem hc

lemma length_base64Alphabet (urlSafe : Bool) : (base64Alphabet urlSafe).length = 64 := by
  cases urlSafe <;> decide

lemma sextets_lt (bytes : List UInt8) : ∀ n ∈ sextets bytes, n < 64 := by
  induction bytes using sextets.induct with
  | case1 a b c rest ih =>
    have ha := a.toNat_lt
    have hb := b.toNat_lt
    have hc := c.toNat_lt
    simp only [sextets, List.forall_mem_cons]
    exact ⟨by omega, by omega, by omega, by omega, ih⟩
  | case2 a b =>
    have ha := a.toNat_lt
    have hb := b.toNat_lt
    simp only [sextets, List.forall_mem_cons]
    exact ⟨by omega, by omega, by omega, List.forall_mem_nil _⟩
  | case3 a =>
    have ha := a.toNat_lt
    simp only [sextets, List.forall_mem_cons]
    exact ⟨by omega, by omega, List.forall_mem_nil _⟩
  | case4 => exact List.forall_mem_nil _

/-- Three bytes take four characters, and one or two bytes at the end one more than they are. -/
lemma length_sextets (bytes : List UInt8) :
    (sextets bytes).length = 4 * (bytes.length / 3) +
      if bytes.length % 3 = 0 then 0 else bytes.length % 3 + 1 := by
  induction bytes using sextets.induct with
  | case1 a b c rest ih =>
    have hdiv : (rest.length + 1 + 1 + 1) / 3 = rest.length / 3 + 1 := by omega
    have hmod : (rest.length + 1 + 1 + 1) % 3 = rest.length % 3 := by omega
    simp only [sextets, List.length_cons, ih, hdiv, hmod]
    omega
  | case2 => simp [sextets]
  | case3 => simp [sextets]
  | case4 => rfl

lemma mem_base64Unpadded {bytes : List UInt8} :
    ∀ c ∈ base64Unpadded urlSafe bytes, isBase64Char urlSafe c = true := by
  intro c hc
  obtain ⟨n, hn, rfl⟩ := List.mem_map.mp hc
  have hlt := sextets_lt bytes n hn
  rw [← length_base64Alphabet urlSafe] at hlt
  rw [← mem_base64Alphabet, List.getD_eq_getElem?_getD, List.getElem?_eq_getElem hlt,
    Option.getD_some]
  exact List.getElem_mem hlt

/-- The padding is that which the characters ask for, and they ask for none if the bytes are so
many times three. -/
lemma padFits_unpadded {padded : Bool} (bytes : List UInt8) :
    PadFits padded (base64Unpadded urlSafe bytes).length ((3 - bytes.length % 3) % 3) ∧
      (PadFits padded (base64Unpadded urlSafe bytes).length 0 ↔
        padded = false ∨ bytes.length % 3 = 0) := by
  rw [base64Unpadded, List.length_map, length_sextets]
  have hlt : bytes.length % 3 < 3 := Nat.mod_lt _ (by decide)
  unfold PadFits
  generalize bytes.length % 3 = k at hlt
  match k, hlt with
  | 0, _ | 1, _ | 2, _ => simp

/-- Characters of the alphabet alone need padding that fits to be none. -/
lemma base64Form_chars_iff (hbody : ∀ c ∈ body, isBase64Char o.urlSafe c = true) :
    Base64Form o body ↔ PadFits o.padded body.length 0 := by
  constructor
  · rintro ⟨front, pad, rfl, -, hfits⟩
    cases pad with
    | zero => rwa [List.replicate_zero, List.append_nil]
    | succ pad =>
      have hmem : '=' ∈ front ++ List.replicate (pad + 1) '=' :=
        List.mem_append_right _ (List.mem_cons_self ..)
      exact absurd (hbody _ hmem) (by rw [isBase64Char_pad]; decide)
  · intro hfits
    exact ⟨body, 0, (List.append_nil _).symm, hbody, hfits⟩

lemma base64Form_padded_iff : Base64Form ⟨true, urlSafe⟩ t ↔ t.length % 4 = 0 ∧
    ∃ body pad, t = body ++ List.replicate pad '=' ∧ (∀ c ∈ body, c ∈ base64Alphabet urlSafe) ∧
      pad ≤ 2 := by
  simp only [mem_base64Alphabet]
  constructor
  · rintro ⟨body, pad, rfl, hbody, hfits⟩
    simp only [PadFits, Bool.true_eq_false, false_and, or_false] at hfits
    rw [List.length_append, List.length_replicate]
    exact ⟨by omega, body, pad, rfl, hbody, by omega⟩
  · rintro ⟨hlength, body, pad, rfl, hbody, hpad⟩
    rw [List.length_append, List.length_replicate] at hlength
    refine ⟨body, pad, rfl, hbody, ?_⟩
    simp only [PadFits, Bool.true_eq_false, false_and, or_false]
    omega

lemma base64Form_unpadded_iff : Base64Form ⟨false, urlSafe⟩ t ↔
    ∃ body pad, t = body ++ List.replicate pad '=' ∧ (∀ c ∈ body, c ∈ base64Alphabet urlSafe) ∧
      body.length % 4 ≠ 1 ∧ (pad = 0 ∨ pad ≤ 2 ∧ t.length % 4 = 0) := by
  simp only [mem_base64Alphabet]
  refine exists_congr fun body => exists_congr fun pad => and_congr_right fun ht =>
    and_congr_right fun _ => ?_
  rw [ht, List.length_append, List.length_replicate]
  simp only [PadFits, true_and]
  omega

end Format

namespace StringRule

open Format

lemma base64_addedBy (options : Entries) :
    (base64 ⟨asksPadding options, (Value.option "url_safe" options).truthy⟩).AddedBy "base64"
      [.object options] :=
  fun _ _ => rfl

lemma base64_acceptsJust {store : Store} {prefs : Preferences} {env : Environment} {s : List Char}
    (o : Base64Options) : (base64 o).AcceptsJust store prefs env s "string.base64"
      (Base64Form o (dropFinalLineFeed s)) := by
  refine acceptsJust_of_require .stringBase64 (isBase64 o s) ?_ isBase64_iff
  rw [check, String.toList_ofList]

end StringRule

open Format StringRule

/-- The operation adds the rule of its options. With padding, this accepts characters of the
alphabet with none, one or two padding characters after them, a multiple of four altogether;
without, also characters of the alphabet alone if their number is not one more than a multiple of
four. So what bytes are written as is accepted, and without its padding only if that is optional or
there is none. -/
theorem base64_accepts (store : Store) (prefs : Preferences) (env : Environment) (urlSafe : Bool) :
    (∀ options, (base64 ⟨asksPadding options, (Value.option "url_safe" options).truthy⟩).AddedBy
      "base64" [.object options]) ∧
    (∀ s, let t := dropFinalLineFeed s
      (base64 ⟨true, urlSafe⟩).AcceptsJust store prefs env s "string.base64"
        (t.length % 4 = 0 ∧ ∃ body pad, t = body ++ List.replicate pad '=' ∧
          (∀ c ∈ body, c ∈ base64Alphabet urlSafe) ∧ pad ≤ 2) ∧
      (base64 ⟨false, urlSafe⟩).AcceptsJust store prefs env s "string.base64"
        (∃ body pad, t = body ++ List.replicate pad '=' ∧
          (∀ c ∈ body, c ∈ base64Alphabet urlSafe) ∧ body.length % 4 ≠ 1 ∧
          (pad = 0 ∨ pad ≤ 2 ∧ t.length % 4 = 0))) ∧
    ∀ (padded : Bool) (bytes : List UInt8),
      (base64 ⟨padded, urlSafe⟩).Accepts store prefs env (base64Text urlSafe bytes) ∧
      ((base64 ⟨padded, urlSafe⟩).Accepts store prefs env (base64Unpadded urlSafe bytes) ↔
        padded = false ∨ bytes.length % 3 = 0) := by
  refine ⟨base64_addedBy, fun s => ⟨?_, ?_⟩, fun padded bytes => ⟨?_, ?_⟩⟩
  · rw [← base64Form_padded_iff]
    exact base64_acceptsJust _
  · rw [← base64Form_unpadded_iff]
    exact base64_acceptsJust _
  · have hform : Base64Form ⟨padded, urlSafe⟩ (base64Text urlSafe bytes) :=
      ⟨_, _, rfl, mem_base64Unpadded, (padFits_unpadded bytes).1⟩
    rw [(base64_acceptsJust _).accepts,
      dropFinalLineFeed_of_ne (getLast?_ne_lineFeed hform.notMem_lineFeed)]
    exact hform
  · have hline : '\n' ∉ base64Unpadded urlSafe bytes := fun hmem =>
      absurd (mem_base64Unpadded _ hmem) (by rw [isBase64Char_lineFeed]; decide)
    rw [(base64_acceptsJust _).accepts, dropFinalLineFeed_of_ne (getLast?_ne_lineFeed hline),
      base64Form_chars_iff mem_base64Unpadded]
    exact (padFits_unpadded bytes).2

end InputGuard

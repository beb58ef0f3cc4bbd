import InputGuard.Proofs.Backtracking

/-!
# Languages of patterns

A search for a pattern that starts with the start of the text succeeds if and only if its relation
between places leads from the whole text to some place. Nodes without references spell a language
that does not depend on what the groups have matched, and the language of a node follows from those
of its parts. With look-aheads, a text of the language may also depend on what follows it.
-/

namespace InputGuard.Pattern

variable {text : List Char}

namespace Node

/-- The places that a node leads to from the start of a text that it asks for. -/
def ReadsFromStart : Node → Place → Place → Prop
  | .sequence (.anchor .textStart) n, p, q => n.Reads p q
  | .either a b, p, q => a.ReadsFromStart p q ∨ b.ReadsFromStart p q
  | _, _, _ => False

/-- Plain nodes after the start of the text. -/
def isAnchored : Node → Bool
  | .sequence (.anchor .textStart) n => n.isPlain
  | .either a b => a.isAnchored && b.isAnchored
  | _ => false

variable {n : Node}

lemma run_of_isAnchored (hn : n.isAnchored = true) {next : Next} {c : Cursor}
    (hc : c.position ≠ 0) : n.run text.toArray next c = none := by
  fun_induction isAnchored n with
  | case1 n => simp [run, Anchor.holds, hc]
  | case2 a b iha ihb =>
    obtain ⟨ha, hb⟩ := Bool.and_eq_true_iff.mp hn
    rw [run, iha ha, ihb hb]
  | case3 => cases hn

lemma run_start_iff (hn : n.isAnchored = true) :
    (n.run text.toArray some ⟨0, []⟩).isSome = true ↔ ∃ q, n.ReadsFromStart ⟨text, []⟩ q := by
  fun_induction isAnchored n with
  | case1 n =>
    have hstart : Cursor.Within text ⟨0, []⟩ := ⟨Nat.zero_le _, nofun⟩
    have hfollows : (n.run text.toArray some ⟨0, []⟩).isSome = true ↔
        ∃ q, n.Reads ⟨text, []⟩ q ∧ True :=
      follows_reads hn hstart fun d _ _ => iff_of_true rfl trivial
    simp only [and_true] at hfollows
    exact hfollows
  | case2 a b iha ihb =>
    obtain ⟨ha, hb⟩ := Bool.and_eq_true_iff.mp hn
    simp only [ReadsFromStart, exists_or, ← iha ha, ← ihb hb, run]
    cases a.run text.toArray some ⟨0, []⟩ <;> simp
  | case3 => cases hn

end Node

/-- A search for a pattern that starts with the start of the text succeeds if and only if its
relation leads from the text to some place. -/
theorem search_iff {p : Pattern} (hp : p.node.isAnchored = true) (s : List Char) :
    p.search (String.ofList s) = true ↔ ∃ q, p.node.ReadsFromStart ⟨s, []⟩ q := by
  unfold search
  rw [List.any_eq_true, String.toList_ofList]
  constructor
  · rintro ⟨i, -, hi⟩
    by_cases hzero : i = 0
    · subst hzero
      exact (Node.run_start_iff hp).mp hi
    · rw [Node.run_of_isAnchored hp hzero] at hi
      cases hi
  · intro h
    exact ⟨0, List.mem_range.mpr (Nat.succ_pos _), (Node.run_start_iff hp).mpr h⟩

namespace Node

variable {how : Comparison} {s : Single} {p q : Place}

lemma rounds_single_iff {n : ℕ} : Rounds (single how s).Reads n p q ↔
    ∃ w, p.rest = w ++ q.rest ∧ w.length = n ∧ (∀ c ∈ w, s.holds how c = true) ∧
      q.captures = p.captures := by
  induction n generalizing p with
  | zero =>
    constructor
    · rintro rfl
      exact ⟨[], rfl, rfl, nofun, rfl⟩
    · rintro ⟨w, hw, hlength, -, hcaptures⟩
      rw [List.length_eq_zero_iff.mp hlength, List.nil_append] at hw
      exact Place.ext hw.symm hcaptures
  | succ n ih =>
    constructor
    · rintro ⟨r, ⟨c, hr, hc, hcaptures⟩, hrounds⟩
      obtain ⟨w, hw, hlength, hall, hcaptures'⟩ := ih.mp hrounds
      exact ⟨c :: w, by rw [hr, hw]; rfl, congrArg (· + 1) hlength,
        List.forall_mem_cons.mpr ⟨hc, hall⟩, hcaptures'.trans hcaptures⟩
    · rintro ⟨w, hw, hlength, hall, hcaptures⟩
      obtain ⟨c, w, rfl⟩ := List.exists_cons_of_length_eq_add_one hlength
      obtain ⟨hc, hall⟩ := List.forall_mem_cons.mp hall
      exact ⟨⟨w ++ q.rest, p.captures⟩, ⟨c, hw, hc, rfl⟩,
        ih.mpr ⟨w, rfl, Nat.succ.inj hlength, hall, hcaptures⟩⟩

lemma reads_run_iff {greed : Greed} {least : ℕ} {most : Option ℕ} :
    (repeated greed least most (single how s)).Reads p q ↔
      ∃ w, p.rest = w ++ q.rest ∧ least ≤ w.length ∧ (∀ m, most = some m → w.length ≤ m) ∧
        (∀ c ∈ w, s.holds how c = true) ∧ q.captures = p.captures := by
  constructor
  · rintro ⟨_, hleast, hmost, hrounds⟩
    obtain ⟨w, hw, rfl, hall, hcaptures⟩ := rounds_single_iff.mp hrounds
    exact ⟨w, hw, hleast, hmost, hall, hcaptures⟩
  · rintro ⟨w, hw, hleast, hmost, hall, hcaptures⟩
    exact ⟨_, hleast, hmost, rounds_single_iff.mpr ⟨w, hw, rfl, hall, hcaptures⟩⟩

end Node

/-- What a node takes from a place is a text of a language, whatever the groups have matched, and
each text of the language can be taken. -/
def Spells (n : Node) (L : List Char → Prop) : Prop :=
  ∀ (p : Place) (rest : List Char),
    (∃ captures, n.Reads p ⟨rest, captures⟩) ↔ ∃ w, p.rest = w ++ rest ∧ L w

namespace Spells

variable {a b body : Node} {L M : List Char → Prop}

lemma congr (h : Spells a L) (hLM : ∀ w, L w ↔ M w) : Spells a M := by
  intro p rest
  rw [h p rest]
  simp only [hLM]

lemma single (how : Comparison) (s : Single) :
    Spells (.single how s) fun w => ∃ c, w = [c] ∧ s.holds how c = true := by
  intro p rest
  constructor
  · rintro ⟨captures, c, hrest, hc, -⟩
    exact ⟨[c], hrest, c, rfl, hc⟩
  · rintro ⟨_, hrest, c, rfl, hc⟩
    exact ⟨p.captures, c, hrest, hc, rfl⟩

lemma run {how : Comparison} {s : Single} (greed : Greed) (least : ℕ) (most : Option ℕ) :
    Spells (.repeated greed least most (.single how s)) fun w =>
      least ≤ w.length ∧ (∀ m, most = some m → w.length ≤ m) ∧ ∀ c ∈ w, s.holds how c = true := by
  intro p rest
  simp only [Node.reads_run_iff]
  constructor
  · rintro ⟨captures, w, hrest, hleast, hmost, hall, -⟩
    exact ⟨w, hrest, hleast, hmost, hall⟩
  · rintro ⟨w, hrest, hleast, hmost, hall⟩
    exact ⟨p.captures, w, hrest, hleast, hmost, hall, rfl⟩

lemma sequence (ha : Spells a L) (hb : Spells b M) :
    Spells (.sequence a b) fun w => ∃ u v, w = u ++ v ∧ L u ∧ M v := by
  intro p rest
  constructor
  · rintro ⟨captures, q, hq, hrest⟩
    obtain ⟨u, hu, hL⟩ := (ha p q.rest).mp ⟨q.captures, hq⟩
    obtain ⟨v, hv, hM⟩ := (hb q rest).mp ⟨captures, hrest⟩
    exact ⟨u ++ v, by rw [hu, hv, List.append_assoc], u, v, rfl, hL, hM⟩
  · rintro ⟨_, hrest, u, v, rfl, hL, hM⟩
    rw [List.append_assoc] at hrest
    obtain ⟨captures, hq⟩ := (ha p (v ++ rest)).mpr ⟨u, hrest, hL⟩
    obtain ⟨captures', hq'⟩ := (hb ⟨v ++ rest, captures⟩ rest).mpr ⟨v, rfl, hM⟩
    exact ⟨captures', _, hq, hq'⟩

lemma either (ha : Spells a L) (hb : Spells b M) : Spells (.either a b) fun w => L w ∨ M w := by
  intro p rest
  simp only [Node.Reads, exists_or, ha p rest, hb p rest, and_or_left]

lemma group (index : ℕ) (h : Spells body L) : Spells (.group index body) L := by
  intro p rest
  rw [← h p rest]
  constructor
  · rintro ⟨_, q, w, hq, hw, heq⟩
    cases heq
    exact ⟨q.captures, hq⟩
  · rintro ⟨captures, hq⟩
    obtain ⟨w, hw, -⟩ := (h p rest).mp ⟨captures, hq⟩
    exact ⟨_, _, w, hq, hw, rfl⟩

lemma rounds (h : Spells body L) {n : ℕ} (p : Place) (rest : List Char) :
    (∃ captures, Rounds body.Reads n p ⟨rest, captures⟩) ↔
      ∃ parts : List (List Char), p.rest = parts.flatten ++ rest ∧ parts.length = n ∧
        ∀ w ∈ parts, L w := by
  induction n generalizing p with
  | zero =>
    constructor
    · rintro ⟨captures, heq⟩
      cases heq
      exact ⟨[], rfl, rfl, nofun⟩
    · rintro ⟨parts, hrest, hlength, -⟩
      rw [List.length_eq_zero_iff.mp hlength] at hrest
      exact ⟨p.captures, Place.ext hrest.symm rfl⟩
  | succ n ih =>
    constructor
    · rintro ⟨captures, q, hq, hrounds⟩
      obtain ⟨w, hw, hL⟩ := (h p q.rest).mp ⟨q.captures, hq⟩
      obtain ⟨parts, hrest, hlength, hall⟩ := (ih q).mp ⟨captures, hrounds⟩
      exact ⟨w :: parts, by rw [hw, hrest, List.flatten_cons, List.append_assoc],
        congrArg (· + 1) hlength, List.forall_mem_cons.mpr ⟨hL, hall⟩⟩
    · rintro ⟨parts, hrest, hlength, hall⟩
      obtain ⟨w, parts, rfl⟩ := List.exists_cons_of_length_eq_add_one hlength
      obtain ⟨hL, hall⟩ := List.forall_mem_cons.mp hall
      rw [List.flatten_cons, List.append_assoc] at hrest
      obtain ⟨captures, hq⟩ := (h p _).mpr ⟨w, hrest, hL⟩
      obtain ⟨captures', hrounds⟩ := (ih ⟨parts.flatten ++ rest, captures⟩).mpr
        ⟨parts, rfl, Nat.succ.inj hlength, hall⟩
      exact ⟨captures', _, hq, hrounds⟩

lemma repeated (greed : Greed) (least : ℕ) (most : Option ℕ) (h : Spells body L) :
    Spells (.repeated greed least most body) fun w => ∃ parts : List (List Char),
      w = parts.flatten ∧ least ≤ parts.length ∧ (∀ m, most = some m → parts.length ≤ m) ∧
        ∀ u ∈ parts, L u := by
  intro p rest
  constructor
  · rintro ⟨captures, n, hleast, hmost, hrounds⟩
    obtain ⟨parts, hrest, rfl, hall⟩ := (h.rounds p rest).mp ⟨captures, hrounds⟩
    exact ⟨_, hrest, parts, rfl, hleast, hmost, hall⟩
  · rintro ⟨_, hrest, parts, rfl, hleast, hmost, hall⟩
    obtain ⟨captures, hrounds⟩ := (h.rounds p rest).mpr ⟨parts, hrest, rfl, hall⟩
    exact ⟨captures, _, hleast, hmost, hrounds⟩

lemma optional (greed : Greed) (h : Spells body L) :
    Spells (.repeated greed 0 (some 1) body) fun w => w = [] ∨ L w := by
  refine (h.repeated greed 0 (some 1)).congr fun w => ?_
  constructor
  · rintro ⟨parts, rfl, -, hmost, hall⟩
    have hle := hmost 1 rfl
    match parts, hall with
    | [], _ => exact Or.inl rfl
    | [u], hall => exact Or.inr (by simpa using hall)
  · rintro (rfl | hL)
    · exact ⟨[], rfl, Nat.zero_le _, fun m _ => Nat.zero_le m, nofun⟩
    · exact ⟨[w], by simp, Nat.zero_le _, fun m hm => by cases hm; exact Nat.le_refl _,
        List.forall_mem_singleton.mpr hL⟩

lemma reads_assoc {c : Node} {p q : Place} : (Node.sequence a (.sequence b c)).Reads p q ↔
    (Node.sequence (.sequence a b) c).Reads p q := by
  constructor
  · rintro ⟨r, hr, r', hr', hq⟩
    exact ⟨r', ⟨r, hr, hr'⟩, hq⟩
  · rintro ⟨r', ⟨r, hr, hr'⟩, hq⟩
    exact ⟨r, hr, r', hr', hq⟩

/-- A node before the end of the text spells the whole text but for a final line feed. -/
lemma exists_end_iff (h : Spells a L) (s : List Char) :
    (∃ q, (Node.sequence a (.anchor .finalEnd)).Reads ⟨s, []⟩ q) ↔
      ∃ w rest, s = w ++ rest ∧ (rest = [] ∨ rest = ['\n']) ∧ L w := by
  constructor
  · rintro ⟨q, _, hq, hend, rfl⟩
    obtain ⟨w, hw, hL⟩ := (h ⟨s, []⟩ q.rest).mp ⟨q.captures, hq⟩
    exact ⟨w, q.rest, hw, hend, hL⟩
  · rintro ⟨w, rest, hw, hend, hL⟩
    obtain ⟨captures, hq⟩ := (h ⟨s, []⟩ rest).mpr ⟨w, hw, hL⟩
    exact ⟨_, _, hq, hend, rfl⟩

end Spells

/-- What a node takes from a place is a text of a language that may depend on what follows the
text. -/
def SpellsBefore (n : Node) (L : List Char → List Char → Prop) : Prop :=
  ∀ (p : Place) (rest : List Char),
    (∃ captures, n.Reads p ⟨rest, captures⟩) ↔ ∃ w, p.rest = w ++ rest ∧ L w rest

namespace SpellsBefore

variable {a b body : Node} {L M : List Char → List Char → Prop}

lemma of_spells {L : List Char → Prop} (h : Spells a L) : SpellsBefore a fun w _ => L w := h

lemma congr (h : SpellsBefore a L) (hLM : ∀ w rest, L w rest ↔ M w rest) : SpellsBefore a M := by
  intro p rest
  rw [h p rest]
  simp only [hLM]

lemma sequence (ha : SpellsBefore a L) (hb : SpellsBefore b M) :
    SpellsBefore (.sequence a b) fun w rest =>
      ∃ u v, w = u ++ v ∧ L u (v ++ rest) ∧ M v rest := by
  intro p rest
  constructor
  · rintro ⟨captures, q, hq, hrest⟩
    obtain ⟨u, hu, hL⟩ := (ha p q.rest).mp ⟨q.captures, hq⟩
    obtain ⟨v, hv, hM⟩ := (hb q rest).mp ⟨captures, hrest⟩
    rw [hv] at hu hL
    exact ⟨u ++ v, by rw [hu, List.append_assoc], u, v, rfl, hL, hM⟩
  · rintro ⟨_, hrest, u, v, rfl, hL, hM⟩
    rw [List.append_assoc] at hrest
    obtain ⟨captures, hq⟩ := (ha p (v ++ rest)).mpr ⟨u, hrest, hL⟩
    obtain ⟨captures', hq'⟩ := (hb ⟨v ++ rest, captures⟩ rest).mpr ⟨v, rfl, hM⟩
    exact ⟨captures', _, hq, hq'⟩

lemma group (index : ℕ) (h : SpellsBefore body L) : SpellsBefore (.group index body) L := by
  intro p rest
  rw [← h p rest]
  constructor
  · rintro ⟨_, q, w, hq, hw, heq⟩
    cases heq
    exact ⟨q.captures, hq⟩
  · rintro ⟨captures, hq⟩
    obtain ⟨w, hw, -⟩ := (h p rest).mp ⟨captures, hq⟩
    exact ⟨_, _, w, hq, hw, rfl⟩

lemma optional (greed : Greed) (h : SpellsBefore body L) :
    SpellsBefore (.repeated greed 0 (some 1) body) fun w rest => w = [] ∨ L w rest := by
  intro p rest
  simp only [and_or_left, exists_or, exists_eq_right, List.nil_append, ← h p rest]
  constructor
  · rintro ⟨captures, n, -, hmost, hrounds⟩
    match n, hmost 1 rfl, hrounds with
    | 0, _, hend => exact Or.inl (congrArg Place.rest hend).symm
    | 1, _, ⟨_, hbody, rfl⟩ => exact Or.inr ⟨captures, hbody⟩
  · rintro (hend | ⟨captures, hbody⟩)
    · exact ⟨p.captures, 0, Nat.le_refl 0, fun m _ => Nat.zero_le m, Place.ext hend.symm rfl⟩
    · exact ⟨captures, 1, Nat.zero_le 1, fun m hm => Nat.le_of_eq (Option.some.inj hm), _, hbody,
        rfl⟩

lemma anchor (how : Anchor) : SpellsBefore (.anchor how) fun w rest =>
    w = [] ∧ how.Before rest := by
  intro p rest
  constructor
  · rintro ⟨captures, hbefore, heq⟩
    cases heq
    exact ⟨[], rfl, rfl, hbefore⟩
  · rintro ⟨_, hrest, rfl, hbefore⟩
    rw [List.nil_append] at hrest
    rw [← hrest] at hbefore
    exact ⟨p.captures, hbefore, Place.ext hrest.symm rfl⟩

/-- Where a node leads to some place, it has taken a text at the start. -/
lemma exists_reads_iff (h : SpellsBefore a L) (p : Place) :
    (∃ q, a.Reads p q) ↔ ∃ w rest, p.rest = w ++ rest ∧ L w rest := by
  rw [exists_comm]
  simp only [← h p]
  exact ⟨fun ⟨q, hq⟩ => ⟨q.rest, q.captures, hq⟩, fun ⟨_, _, hq⟩ => ⟨_, hq⟩⟩

/-- What a look-ahead asks for is a text at the start of what follows. -/
lemma ahead (negated : Bool) (h : SpellsBefore body L) :
    SpellsBefore (.ahead negated body) fun w rest =>
      w = [] ∧ ((∃ u v, rest = u ++ v ∧ L u v) ↔ negated = false) := by
  intro p rest
  constructor
  · rintro ⟨captures, hlook, heq⟩
    cases heq
    rw [h.exists_reads_iff] at hlook
    exact ⟨[], rfl, rfl, hlook⟩
  · rintro ⟨_, hrest, rfl, hlook⟩
    rw [List.nil_append] at hrest
    rw [← hrest, ← h.exists_reads_iff] at hlook
    exact ⟨p.captures, hlook, Place.ext hrest.symm rfl⟩

end SpellsBefore

end InputGuard.Pattern

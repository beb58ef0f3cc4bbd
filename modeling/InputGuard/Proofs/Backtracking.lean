import InputGuard.Pattern.Search
import Mathlib.Data.List.Basic
import Mathlib.Tactic.Common

/-!
# Backtracking

`Node.run` matches a node by backtracking: it tries one way after another, and each way knows what
has to match afterwards. Here a node is a relation between places instead, a place being the rest of
the text together with what the groups have matched. For nodes that do not look back and whose
repetitions are greedy and move on with every round, backtracking succeeds if and only if the
relation leads to a place where the continuation succeeds: no way is missed. A look-ahead is a
question about the rest of the text; one that asks for something must not remember what it has
found.
-/

namespace InputGuard.Pattern

/-- A place in a text: the rest of it, and what the groups have matched, latest first. -/
@[ext]
structure Place where
  rest : List Char
  captures : List (ℕ × List Char)

namespace Place

/-- What a group has matched. -/
def captured? (p : Place) (index : ℕ) : Option (List Char) :=
  (p.captures.find? (·.1 == index)).map (·.2)

def capture (p : Place) (index : ℕ) (w : List Char) : Place :=
  ⟨p.rest, (index, w) :: p.captures.filter (·.1 != index)⟩

end Place

/-- So many steps of a relation. -/
def Rounds {α : Type} (R : α → α → Prop) : ℕ → α → α → Prop
  | 0, a, b => b = a
  | n + 1, a, c => ∃ b, R a b ∧ Rounds R n b c

/-- What two characters have in common that match each other. -/
def Comparison.key (how : Comparison) (c : Char) : Char := if how.ignoreCase then how.lower c else c

/-- Whether an anchor that looks at what follows holds before a rest. -/
def Anchor.Before : Anchor → List Char → Prop
  | textEnd, rest => rest = []
  | lineEnd, rest => rest = [] ∨ rest.head? = some '\n'
  | finalEnd, rest => rest = [] ∨ rest = ['\n']
  | _, _ => False

namespace Node

/-- The places that a node leads to from a place. -/
def Reads : Node → Place → Place → Prop
  | .empty, p, q => q = p
  | .single how s, p, q =>
    ∃ c, p.rest = c :: q.rest ∧ s.holds how c = true ∧ q.captures = p.captures
  | .anchor a, p, q => a.Before p.rest ∧ q = p
  | .sequence a b, p, r => ∃ q, a.Reads p q ∧ b.Reads q r
  | .either a b, p, q => a.Reads p q ∨ b.Reads p q
  | .repeated _ least most body, p, q =>
    ∃ n, least ≤ n ∧ (∀ m, most = some m → n ≤ m) ∧ Rounds body.Reads n p q
  | .group index body, p, r =>
    ∃ q w, body.Reads p q ∧ p.rest = w ++ q.rest ∧ r = q.capture index w
  | .reference how index, p, q => ∃ w w', p.captured? index = some w ∧ p.rest = w' ++ q.rest ∧
      w'.map how.key = w.map how.key ∧ q.captures = p.captures
  | .ahead negated body, p, q => ((∃ r, body.Reads p r) ↔ negated = false) ∧ q = p
  | _, _, _ => False

/-- The number of characters that a node takes at least. -/
def leastWidth : Node → ℕ
  | .single _ _ => 1
  | .sequence a b => a.leastWidth + b.leastWidth
  | .either a b => min a.leastWidth b.leastWidth
  | .repeated _ least _ body => least * body.leastWidth
  | .group _ body => body.leastWidth
  | _ => 0

/-- Nodes after which the groups have matched what they had matched before. -/
def keepsGroups : Node → Bool
  | .empty | .single _ _ | .anchor _ | .reference _ _ => true
  | .sequence a b | .either a b => a.keepsGroups && b.keepsGroups
  | .repeated greed _ _ body => greed = .greedy && body.keepsGroups
  | _ => false

/-- Nodes that look at nothing before them, give nothing up for good, and repeat only what moves
on. -/
def isPlain : Node → Bool
  | .empty | .single _ _ | .reference _ _ => true
  | .anchor a => a = .textEnd || a = .lineEnd || a = .finalEnd
  | .sequence a b | .either a b => a.isPlain && b.isPlain
  | .repeated greed least most body =>
    greed = .greedy && most.all (least ≤ ·) && decide (0 < body.leastWidth) && body.isPlain
  | .group _ body => body.isPlain
  | .ahead negated body => (negated || body.keepsGroups) && body.isPlain
  | _ => false

end Node

namespace Cursor

/-- A cursor and the spans of its groups lie in the text. -/
structure Within (text : List Char) (c : Cursor) : Prop where
  position_le : c.position ≤ text.length
  span_le : ∀ g ∈ c.groups, g.2.1 ≤ g.2.2 ∧ g.2.2 ≤ text.length

/-- The characters of a span. -/
def slice (text : List Char) (span : ℕ × ℕ) : List Char := (text.drop span.1).take (span.2 - span.1)

def place (text : List Char) (c : Cursor) : Place :=
  ⟨text.drop c.position, c.groups.map fun g => (g.1, slice text g.2)⟩

variable {text : List Char} {c d : Cursor}

lemma captured?_place (index : ℕ) :
    (c.place text).captured? index = (c.span? index).map (slice text) := by
  unfold place Place.captured? span?
  rw [List.find?_map, Option.map_map, Option.map_map]
  rfl

lemma Within.move (hc : c.Within text) {position : ℕ} (h : position ≤ text.length) :
    Within text { c with position := position } :=
  ⟨h, hc.span_le⟩

lemma Within.span (hc : c.Within text) {index : ℕ} {span : ℕ × ℕ}
    (h : c.span? index = some span) : span.1 ≤ span.2 ∧ span.2 ≤ text.length := by
  obtain ⟨g, hg, rfl⟩ := Option.map_eq_some_iff.mp h
  exact hc.span_le g (List.mem_of_find?_eq_some hg)

lemma Within.capture (hd : d.Within text) (h : c.position ≤ d.position) (index : ℕ) :
    (d.capture index c.position).Within text := by
  refine ⟨hd.position_le, fun g hg => ?_⟩
  rcases List.mem_cons.mp hg with rfl | hg
  · exact ⟨h, hd.position_le⟩
  · exact hd.span_le g (List.mem_filter.mp hg).1

lemma place_capture (index : ℕ) : (d.capture index c.position).place text =
    (d.place text).capture index (slice text (c.position, d.position)) := by
  unfold place capture Place.capture
  simp only [List.map_cons, List.filter_map]
  rfl

/-- What stands between two cursors is the slice from one to the other. -/
lemma rest_eq_iff (h : c.position ≤ d.position) {w : List Char} :
    (c.place text).rest = w ++ (d.place text).rest ↔ w = slice text (c.position, d.position) := by
  have hsplit : text.drop c.position = slice text (c.position, d.position) ++
      text.drop d.position := by
    unfold slice
    nth_rewrite 1 [← List.take_append_drop (d.position - c.position) (text.drop c.position)]
    rw [List.drop_drop, Nat.add_sub_cancel' h]
  change text.drop c.position = w ++ text.drop d.position ↔ _
  rw [hsplit, List.append_left_inj]
  exact eq_comm

end Cursor

variable {text : List Char}

lemma anchor_holds_iff {a : Anchor} (ha : (Node.anchor a).isPlain = true) {c : Cursor}
    (hc : c.Within text) :
    a.holds text.toArray c.position = true ↔ a.Before (c.place text).rest := by
  have hle := hc.position_le
  have hnil : text.drop c.position = [] ↔ c.position = text.length := by
    rw [List.drop_eq_nil_iff]
    omega
  have hsingle : text.drop c.position = ['\n'] ↔
      c.position + 1 = text.length ∧ text[c.position]? = some '\n' := by
    rw [← List.head?_drop]
    constructor
    · intro h
      have hlength := congrArg List.length h
      rw [List.length_drop, List.length_singleton] at hlength
      exact ⟨by omega, by rw [h]; rfl⟩
    · rintro ⟨hlength, hhead⟩
      obtain ⟨rest, hrest⟩ := List.head?_eq_some_iff.mp hhead
      have hlength' := congrArg List.length hrest
      rw [List.length_drop, List.length_cons] at hlength'
      rw [hrest, List.length_eq_zero_iff.mp (by omega : rest.length = 0)]
  cases a with
  | textEnd => simp [Anchor.holds, Anchor.Before, Cursor.place, hnil]
  | lineEnd => simp [Anchor.holds, Anchor.Before, Cursor.place, hnil]
  | finalEnd => simp [Anchor.holds, Anchor.Before, Cursor.place, hnil, hsingle]
  | textStart | lineStart | wordBoundary => cases ha

/-- A span is found again at a position if the text there is the same character by character. -/
lemma sameSpan_iff {how : Comparison} {start length position : ℕ}
    (h : start + length ≤ text.length) :
    sameSpan how text.toArray start length position = true ↔
      ((text.drop position).take length).map how.key =
        ((text.drop start).take length).map how.key := by
  unfold sameSpan
  rw [List.all_eq_true, List.ext_getElem?_iff]
  refine forall_congr' fun i => ?_
  rw [List.mem_range, List.getElem?_map, List.getElem?_map, List.getElem?_take, List.getElem?_take]
  by_cases hi : i < length
  · rw [if_pos hi, if_pos hi, List.getElem?_drop, List.getElem?_drop, List.getElem?_toArray,
      List.getElem?_toArray, List.getElem?_eq_getElem (show start + i < text.length by omega)]
    cases text[position + i]? with
    | none => simp [hi]
    | some b =>
      simp only [hi, Option.map_some, Option.some.injEq, true_imp_iff, Comparison.key]
      split_ifs <;> rw [beq_iff_eq, eq_comm]
  · rw [if_neg hi, if_neg hi]
    exact iff_of_true (fun h => absurd h hi) rfl

/-- What a computation with a continuation has to do with a relation between places: it succeeds if
and only if the relation leads to a place that the continuation succeeds at. The continuation is
only asked about places that are so many characters further on. -/
def Follows (text : List Char) (run : Next → Next) (R : Place → Place → Prop) (width : ℕ) : Prop :=
  ∀ ⦃next : Next⦄ ⦃P : Place → Prop⦄ ⦃c : Cursor⦄, c.Within text →
    (∀ d : Cursor, d.Within text → c.position + width ≤ d.position →
      ((next d).isSome = true ↔ P (d.place text))) →
    ((run next c).isSome = true ↔ ∃ q, R (c.place text) q ∧ P q)

lemma Follows.sequence {first rest : Next → Next} {R S : Place → Place → Prop} {width width' : ℕ}
    (hfirst : Follows text first R width) (hrest : Follows text rest S width') :
    Follows text (fun next => first (rest next)) (fun p r => ∃ q, R p q ∧ S q r)
      (width + width') := by
  intro next P c hc hnext
  have hmid : ∀ d : Cursor, d.Within text → c.position + width ≤ d.position →
      ((rest next d).isSome = true ↔ ∃ r, S (d.place text) r ∧ P r) :=
    fun d hd hle => hrest hd fun e he hle' => hnext e he (by omega)
  rw [hfirst (P := fun q => ∃ r, S q r ∧ P r) hc hmid]
  constructor
  · rintro ⟨q, hq, r, hr, hP⟩
    exact ⟨r, ⟨q, hq, hr⟩, hP⟩
  · rintro ⟨r, ⟨q, hq, hr⟩, hP⟩
    exact ⟨q, hq, r, hr, hP⟩

lemma Follows.either {first second : Next → Next} {R S : Place → Place → Prop} {width width' : ℕ}
    (hfirst : Follows text first R width) (hsecond : Follows text second S width') :
    Follows text
      (fun next c => match first next c with | some out => some out | none => second next c)
      (fun p q => R p q ∨ S p q) (min width width') := by
  intro next P c hc hnext
  have hfirst' := hfirst (P := P) hc fun d hd hle => hnext d hd (by omega)
  have hsecond' := hsecond (P := P) hc fun d hd hle => hnext d hd (by omega)
  simp only [or_and_right, exists_or, ← hfirst', ← hsecond']
  cases first next c with
  | some out => simp
  | none => simp

section Repetitions

variable {R : Place → Place → Prop} {width least : ℕ} {most : Option ℕ} {P : Place → Prop}

/-- Whether rounds after the first `count` ones lead to a place with a property. -/
def RoundsLead (R : Place → Place → Prop) (least : ℕ) (most : Option ℕ) (P : Place → Prop)
    (count : ℕ) (p : Place) : Prop :=
  ∃ n q, least ≤ count + n ∧ (∀ m, most = some m → count + n ≤ m) ∧ Rounds R n p q ∧ P q

/-- Rounds are over, or there is one more. -/
lemma roundsLead_iff {count : ℕ} {p : Place} : RoundsLead R least most P count p ↔
    (∃ q, R p q ∧ RoundsLead R least most P (count + 1) q) ∨
      least ≤ count ∧ (∀ m, most = some m → count ≤ m) ∧ P p := by
  constructor
  · rintro ⟨n, q, hleast, hmost, hrounds, hP⟩
    cases n with
    | zero =>
      cases hrounds
      exact Or.inr ⟨hleast, hmost, hP⟩
    | succ n =>
      obtain ⟨r, hr, hrounds⟩ := hrounds
      refine Or.inl ⟨r, hr, n, q, by omega, fun m hm => ?_, hrounds, hP⟩
      have := hmost m hm
      omega
  · rintro (⟨r, hr, n, q, hleast, hmost, hrounds, hP⟩ | ⟨hleast, hmost, hP⟩)
    · refine ⟨n + 1, q, by omega, fun m hm => ?_, ⟨r, hr, hrounds⟩, hP⟩
      have := hmost m hm
      omega
    · exact ⟨0, p, hleast, hmost, rfl, hP⟩

/-- What is to be known before the next round: there is fuel for the rounds that the text allows,
the last round that was not required has moved on, and there have not been too many of them. -/
structure Ready (text : List Char) (least : ℕ) (most : Option ℕ) (fuel count : ℕ)
    (last : Option ℕ) (c : Cursor) : Prop where
  within : c.Within text
  fuel_le : least - count + (text.length - c.position) < fuel
  last_lt : ∀ position, last = some position → position < c.position
  count_le : ∀ m, most = some m → count ≤ m

variable {body : Next → Next} {next : Next} {fuel count : ℕ} {last : Option ℕ} {c d : Cursor}

lemma Ready.moved (h : Ready text least most (fuel + 1) count last c) :
    (last != some c.position) = true := by
  cases last with
  | none => rfl
  | some position =>
    have := h.last_lt position rfl
    rw [bne_iff_ne, ne_eq, Option.some.injEq]
    omega

lemma Ready.required (h : Ready text least most (fuel + 1) count last c) (hcount : count < least)
    (hmost : ∀ m, most = some m → least ≤ m) (hd : d.Within text)
    (hle : c.position < d.position) : Ready text least most fuel (count + 1) last d := by
  have hfuel := h.fuel_le
  have hposition := hd.position_le
  refine ⟨hd, by omega, fun position hlast => ?_, fun m hm => ?_⟩
  · have := h.last_lt position hlast
    omega
  · have := hmost m hm
    omega

lemma Ready.further (h : Ready text least most (fuel + 1) count last c) (hcount : least ≤ count)
    (hmost : ∀ m, most = some m → count < m) (hd : d.Within text)
    (hle : c.position < d.position) :
    Ready text least most fuel (count + 1) (some c.position) d := by
  have hfuel := h.fuel_le
  have hposition := hd.position_le
  refine ⟨hd, by omega, fun position hlast => ?_, fun m hm => hmost m hm⟩
  cases hlast
  exact hle

/-- Whether one more round is permitted. -/
lemma all_lt_iff :
    most.all (fun m => decide (count < m)) = true ↔ ∀ m, most = some m → count < m := by
  cases most <;> simp

/-- As many rounds as possible first, then fewer. -/
lemma runGreedy_iff (hbody : Follows text body R width) (hwidth : 0 < width)
    (hmost : ∀ m, most = some m → least ≤ m) (hready : Ready text least most fuel count last c)
    (hnext : ∀ d : Cursor, d.Within text → c.position + (least - count) * width ≤ d.position →
      ((next d).isSome = true ↔ P (d.place text))) :
    (runGreedy body least most next fuel count last c).isSome = true ↔
      RoundsLead R least most P count (c.place text) := by
  induction fuel generalizing count last c with
  | zero => exact absurd hready.fuel_le (Nat.not_lt_zero _)
  | succ fuel ih =>
    rw [runGreedy, roundsLead_iff]
    by_cases hcount : count < least
    · have hround : ∀ d : Cursor, d.Within text → c.position + width ≤ d.position →
          ((runGreedy body least most next fuel (count + 1) last d).isSome = true ↔
            RoundsLead R least most P (count + 1) (d.place text)) := by
        intro d hd hle
        refine ih (hready.required hcount hmost hd (by omega)) fun e he hle' => hnext e he ?_
        have hsteps : least - count = least - (count + 1) + 1 := by omega
        rw [hsteps, Nat.succ_mul]
        omega
      rw [if_pos hcount, hbody hready.within hround, or_iff_left]
      rintro ⟨hleast, -⟩
      exact absurd hcount (Nat.not_lt.mpr hleast)
    · have hleast := Nat.not_lt.mp hcount
      have hhere : (next c).isSome = true ↔ P (c.place text) :=
        hnext c hready.within (by simp [Nat.sub_eq_zero_of_le hleast])
      rw [if_neg hcount, hready.moved, Bool.and_true]
      by_cases hmore : ∀ m, most = some m → count < m
      · have hround : ∀ d : Cursor, d.Within text → c.position + width ≤ d.position →
            ((runGreedy body least most next fuel (count + 1) (some c.position) d).isSome = true ↔
              RoundsLead R least most P (count + 1) (d.place text)) := by
          intro d hd hle
          refine ih (hready.further hleast hmore hd (by omega)) fun e he hle' => hnext e he ?_
          rw [Nat.sub_eq_zero_of_le hleast]
          omega
        rw [if_pos (all_lt_iff.mpr hmore), ← hbody hready.within hround]
        cases body (runGreedy body least most next fuel (count + 1) (some c.position)) c with
        | some out => simp
        | none =>
          simp only [hhere, Option.isSome_none, Bool.false_eq_true, false_or]
          exact ⟨fun hP => ⟨hleast, hready.count_le, hP⟩, fun h => h.2.2⟩
      · rw [if_neg (mt all_lt_iff.mp hmore), hhere, or_iff_right]
        · exact ⟨fun hP => ⟨hleast, hready.count_le, hP⟩, fun h => h.2.2⟩
        · rintro ⟨q, -, n, r, -, hlater, -⟩
          refine hmore fun m hm => ?_
          have := hlater m hm
          omega

lemma Follows.greedy (hbody : Follows text body R width) (hwidth : 0 < width)
    (hmost : ∀ m, most = some m → least ≤ m) :
    Follows text
      (fun next c =>
        runGreedy body least most next (least + (text.length - c.position) + 2) 0 none c)
      (fun p q => ∃ n, least ≤ n ∧ (∀ m, most = some m → n ≤ m) ∧ Rounds R n p q)
      (least * width) := by
  intro next P c hc hnext
  have hready : Ready text least most (least + (text.length - c.position) + 2) 0 none c :=
    ⟨hc, by omega, nofun, fun m _ => Nat.zero_le m⟩
  rw [runGreedy_iff hbody hwidth hmost hready hnext]
  simp only [RoundsLead, Nat.zero_add]
  constructor
  · rintro ⟨n, q, hleast, hmost, hrounds, hP⟩
    exact ⟨q, ⟨n, hleast, hmost, hrounds⟩, hP⟩
  · rintro ⟨q, ⟨n, hleast, hmost, hrounds⟩, hP⟩
    exact ⟨n, q, hleast, hmost, hrounds, hP⟩

end Repetitions

namespace Node

attribute [local simp] run runGreedy

lemma follows_single (how : Comparison) (s : Single) :
    Follows text ((single how s).run text.toArray) (single how s).Reads 1 := by
  intro next P c hc hnext
  rw [run, List.getElem?_toArray, ← List.head?_drop]
  change _ ↔ ∃ q : Place, (∃ ch, text.drop c.position = ch :: q.rest ∧ _ ∧ _) ∧ P q
  cases hrest : text.drop c.position with
  | nil =>
    refine iff_of_false (by simp) ?_
    rintro ⟨q, ⟨ch, hq, -⟩, -⟩
    cases hq
  | cons ch rest =>
    have hlength := congrArg List.length hrest
    rw [List.length_drop, List.length_cons] at hlength
    have hmoved : (Cursor.place text { c with position := c.position + 1 }) =
        ⟨rest, (c.place text).captures⟩ := by
      have htail : text.drop (c.position + 1) = rest := by
        rw [← List.tail_drop, hrest, List.tail_cons]
      rw [← htail]
      rfl
    have hstep := hnext _ (hc.move (show c.position + 1 ≤ text.length by omega)) (Nat.le_refl _)
    rw [hmoved] at hstep
    rw [List.head?_cons]
    by_cases hch : s.holds how ch = true
    · simp only [hch, if_true, hstep]
      constructor
      · intro hP
        exact ⟨⟨rest, (c.place text).captures⟩, ⟨ch, rfl, hch, rfl⟩, hP⟩
      · rintro ⟨⟨_, _⟩, ⟨ch', hq, -, rfl⟩, hP⟩
        cases hq
        exact hP
    · simp only [hch]
      refine iff_of_false (by simp) ?_
      rintro ⟨q, ⟨ch', hq, hch', -⟩, -⟩
      cases hq
      exact hch hch'

lemma follows_anchor {a : Anchor} (ha : (anchor a).isPlain = true) :
    Follows text ((anchor a).run text.toArray) (anchor a).Reads 0 := by
  intro next P c hc hnext
  have hhere := hnext c hc (Nat.le_refl _)
  have hholds := anchor_holds_iff ha hc
  rw [run]
  by_cases h : a.holds text.toArray c.position = true
  · rw [if_pos h, hhere]
    constructor
    · intro hP
      exact ⟨_, ⟨hholds.mp h, rfl⟩, hP⟩
    · rintro ⟨q, ⟨-, rfl⟩, hP⟩
      exact hP
  · rw [if_neg h]
    refine iff_of_false nofun ?_
    rintro ⟨q, ⟨hbefore, -⟩, -⟩
    exact h (hholds.mpr hbefore)

lemma follows_group {body : Node} {width : ℕ} (index : ℕ)
    (hbody : Follows text (body.run text.toArray) body.Reads width) :
    Follows text ((group index body).run text.toArray) (group index body).Reads width := by
  intro next P c hc hnext
  have hcaptured : ∀ d : Cursor, d.Within text → c.position + width ≤ d.position →
      ((next (d.capture index c.position)).isSome = true ↔ ∃ w,
        (c.place text).rest = w ++ (d.place text).rest ∧ P ((d.place text).capture index w)) := by
    intro d hd hle
    have hle' : c.position ≤ d.position := by omega
    rw [hnext _ (hd.capture hle' index) hle, Cursor.place_capture]
    simp only [Cursor.rest_eq_iff hle', exists_eq_left]
  rw [run, hbody (P := fun q => ∃ w, _ = w ++ q.rest ∧ P (q.capture index w)) hc hcaptured]
  constructor
  · rintro ⟨q, hq, w, hw, hP⟩
    exact ⟨_, ⟨q, w, hq, hw, rfl⟩, hP⟩
  · rintro ⟨_, ⟨q, w, hq, hw, rfl⟩, hP⟩
    exact ⟨q, hq, w, hw, hP⟩

/-- A text that looks the same at the start of a rest is the only one there of its length. -/
lemma exists_same_iff {rest rest' w : List Char} {f : Char → Char} :
    (∃ w', rest = w' ++ rest' ∧ w'.map f = w.map f) ↔
      (rest.take w.length).map f = w.map f ∧ rest' = rest.drop w.length := by
  constructor
  · rintro ⟨w', rfl, hmap⟩
    have hlength : w'.length = w.length := by simpa using congrArg List.length hmap
    rw [List.take_left' hlength, List.drop_left' hlength]
    exact ⟨hmap, rfl⟩
  · rintro ⟨hmap, rfl⟩
    exact ⟨_, (List.take_append_drop _ _).symm, hmap⟩

lemma reads_reference_iff {how : Comparison} {index : ℕ} {p q : Place} {w : List Char}
    (hw : p.captured? index = some w) : (reference how index).Reads p q ↔
      (p.rest.take w.length).map how.key = w.map how.key ∧
        q = ⟨p.rest.drop w.length, p.captures⟩ := by
  obtain ⟨rest, captures⟩ := q
  rw [Place.mk.injEq, ← and_assoc, ← exists_same_iff]
  constructor
  · rintro ⟨v, w', hv, hrest, hmap, hcaptures⟩
    cases hw.symm.trans hv
    exact ⟨⟨w', hrest, hmap⟩, hcaptures⟩
  · rintro ⟨⟨w', hrest, hmap⟩, hcaptures⟩
    exact ⟨w, w', hw, hrest, hmap, hcaptures⟩

lemma follows_reference (how : Comparison) (index : ℕ) :
    Follows text ((reference how index).run text.toArray) (reference how index).Reads 0 := by
  intro next P c hc hnext
  rw [run]
  have hspan : (c.place text).captured? index = _ := Cursor.captured?_place index
  cases hgroup : c.span? index with
  | none =>
    rw [hgroup] at hspan
    refine iff_of_false nofun ?_
    rintro ⟨q, ⟨w, w', hw, -⟩, -⟩
    cases hspan.symm.trans hw
  | some span =>
    obtain ⟨start, stop⟩ := span
    obtain ⟨hle, hstop⟩ := hc.span hgroup
    rw [hgroup] at hspan
    have hlength : (Cursor.slice text (start, stop)).length = stop - start := by
      rw [Cursor.slice, List.length_take, List.length_drop]
      omega
    have hsame : sameSpan how text.toArray start (stop - start) c.position = true ↔
        ((c.place text).rest.take (Cursor.slice text (start, stop)).length).map how.key =
          (Cursor.slice text (start, stop)).map how.key := by
      rw [hlength]
      exact sameSpan_iff (by omega)
    simp only [reads_reference_iff hspan]
    by_cases hholds : sameSpan how text.toArray start (stop - start) c.position = true
    · have hkeys := hsame.mp hholds
      have hmoved : c.position + (stop - start) ≤ text.length := by
        have hcount := congrArg List.length hkeys
        rw [List.length_map, List.length_map, List.length_take, hlength] at hcount
        simp only [Cursor.place, List.length_drop] at hcount
        have hposition := hc.position_le
        omega
      have hplace : Cursor.place text { c with position := c.position + (stop - start) } =
          ⟨(c.place text).rest.drop (Cursor.slice text (start, stop)).length,
            (c.place text).captures⟩ := by
        simp only [Cursor.place, hlength, List.drop_drop]
      have hstep := hnext _ (hc.move hmoved) (Nat.le_add_right _ _)
      rw [hplace] at hstep
      rw [if_pos hholds, hstep]
      simp only [hkeys, true_and, exists_eq_left]
    · rw [if_neg hholds]
      refine iff_of_false nofun ?_
      rintro ⟨q, ⟨hkeys, -⟩, -⟩
      exact hholds (hsame.mpr hkeys)

/-- A run that succeeds has succeeded after the node, where the groups are as before it. -/
lemma exists_next_runGreedy {body : Next → Next} {least : ℕ} {most : Option ℕ} {next : Next}
    (hbody : ∀ (next : Next) (c out : Cursor), body next c = some out →
      ∃ d : Cursor, d.groups = c.groups ∧ next d = some out)
    (fuel count : ℕ) (last : Option ℕ) {c out : Cursor}
    (h : runGreedy body least most next fuel count last c = some out) :
    ∃ d : Cursor, d.groups = c.groups ∧ next d = some out := by
  induction fuel generalizing count last c with
  | zero => exact ⟨c, rfl, h⟩
  | succ fuel ih =>
    have hround : ∀ last', body (runGreedy body least most next fuel (count + 1) last') c =
        some out → ∃ d : Cursor, d.groups = c.groups ∧ next d = some out := by
      intro last' h'
      obtain ⟨d, hd, hrest⟩ := hbody _ c out h'
      obtain ⟨e, he, hnext⟩ := ih _ _ hrest
      exact ⟨e, he.trans hd, hnext⟩
    rw [runGreedy] at h
    split at h
    · exact hround last h
    · split at h
      · split at h
        · rename_i out' hout
          rw [h] at hout
          exact hround _ hout
        · exact ⟨c, rfl, h⟩
      · exact ⟨c, rfl, h⟩

lemma exists_next_run {n : Node} (hn : n.keepsGroups = true) {next : Next} {c out : Cursor}
    (h : n.run text.toArray next c = some out) :
    ∃ d : Cursor, d.groups = c.groups ∧ next d = some out := by
  induction n generalizing next c out with
  | empty => exact ⟨c, rfl, h⟩
  | single how s =>
    rw [run] at h
    split at h
    · split at h
      · exact ⟨{ c with position := c.position + 1 }, rfl, h⟩
      · cases h
    · cases h
  | anchor a =>
    rw [run] at h
    split at h
    · exact ⟨c, rfl, h⟩
    · cases h
  | sequence a b iha ihb =>
    obtain ⟨ha, hb⟩ := Bool.and_eq_true_iff.mp hn
    obtain ⟨d, hd, hrest⟩ := iha ha h
    obtain ⟨e, he, hnext⟩ := ihb hb hrest
    exact ⟨e, he.trans hd, hnext⟩
  | either a b iha ihb =>
    obtain ⟨ha, hb⟩ := Bool.and_eq_true_iff.mp hn
    rw [run] at h
    split at h
    · rename_i out' hout
      rw [h] at hout
      exact iha ha hout
    · exact ihb hb h
  | repeated greed least most body ih =>
    simp only [keepsGroups, Bool.and_eq_true, decide_eq_true_eq] at hn
    obtain ⟨rfl, hbody⟩ := hn
    exact exists_next_runGreedy (fun _ _ _ hrun => ih hbody hrun) _ _ _ h
  | reference how index =>
    rw [run] at h
    split at h
    · rename_i start stop _
      split at h
      · exact ⟨{ c with position := c.position + (stop - start) }, rfl, h⟩
      · cases h
    · cases h
  | group | ahead | behind | atomic | conditional => cases hn

/-- Looking ahead asks whether the node leads anywhere. -/
lemma follows_ahead {negated : Bool} {body : Node} {width : ℕ}
    (hbody : Follows text (body.run text.toArray) body.Reads width)
    (hgroups : negated = true ∨ body.keepsGroups = true) :
    Follows text ((ahead negated body).run text.toArray) (ahead negated body).Reads 0 := by
  intro next P c hc hnext
  have hhere := hnext c hc (Nat.le_refl _)
  have hlook : (body.run text.toArray some c).isSome = true ↔ ∃ r, body.Reads (c.place text) r := by
    rw [hbody (P := fun _ => True) hc fun d _ _ => iff_of_true rfl trivial]
    simp only [and_true]
  have hreads : (∃ q, (ahead negated body).Reads (c.place text) q ∧ P q) ↔
      ((∃ r, body.Reads (c.place text) r) ↔ negated = false) ∧ P (c.place text) := by
    constructor
    · rintro ⟨_, ⟨hasks, rfl⟩, hP⟩
      exact ⟨hasks, hP⟩
    · rintro ⟨hasks, hP⟩
      exact ⟨_, ⟨hasks, rfl⟩, hP⟩
  rw [hreads, ← hlook, ← hhere]
  cases hrun : body.run text.toArray some c with
  | none => cases negated <;> simp [hrun]
  | some d =>
    cases negated with
    | true => simp [hrun]
    | false =>
      obtain ⟨e, he, hd⟩ := exists_next_run (hgroups.resolve_left nofun) hrun
      obtain rfl : e = d := Option.some.inj hd
      simp [hrun, he]

/-- Backtracking follows a node: it finds a way to match if there is one, and only then. -/
theorem follows_reads {n : Node} (hn : n.isPlain = true) :
    Follows text (n.run text.toArray) n.Reads n.leastWidth := by
  induction n with
  | empty =>
    intro next P c hc hnext
    rw [run, hnext c hc (Nat.le_refl _)]
    exact exists_eq_left.symm
  | single how s => exact follows_single how s
  | anchor a => exact follows_anchor hn
  | sequence a b iha ihb =>
    obtain ⟨ha, hb⟩ := Bool.and_eq_true_iff.mp hn
    exact (iha ha).sequence (ihb hb)
  | either a b iha ihb =>
    obtain ⟨ha, hb⟩ := Bool.and_eq_true_iff.mp hn
    exact (iha ha).either (ihb hb)
  | repeated greed least most body ih =>
    simp only [isPlain, Bool.and_eq_true, decide_eq_true_eq] at hn
    obtain ⟨⟨⟨rfl, hmost⟩, hwidth⟩, hbody⟩ := hn
    refine (ih hbody).greedy hwidth fun m hm => ?_
    subst hm
    simpa using hmost
  | group index body ih => exact follows_group index (ih hn)
  | reference how index => exact follows_reference how index
  | ahead negated body ih =>
    obtain ⟨hgroups, hbody⟩ := Bool.and_eq_true_iff.mp hn
    exact follows_ahead (ih hbody) (Bool.or_eq_true_iff.mp hgroups)
  | behind | atomic | conditional => cases hn

end Node

end InputGuard.Pattern

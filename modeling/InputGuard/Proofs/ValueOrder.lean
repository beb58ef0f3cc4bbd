import InputGuard.Proofs.Lookup
import InputGuard.Schema.ArrayRule
import Mathlib.Data.List.Forall2
import Mathlib.Data.List.Perm.Subperm
import Mathlib.Data.String.Basic

/-!
# Equal values

Equality of values is symmetric and transitive, if no object has a key twice. It need not be
reflexive, since a number that is not defined is not equal to itself. Equal values cannot be told
apart by their order, nor by what a path leads to in them.
-/

namespace InputGuard

namespace Number

lemma unitScale_pos : 0 < unitScale := by decide +kernel

lemma same_int (m n : Int) : (int m).same (int n) = decide (m = n) := by
  have hscale : unitScale ≠ 0 := Int.ne_of_gt unitScale_pos
  simp [same, place?, beq_eq_decide, Int.mul_eq_mul_right_iff hscale]

lemma lt_int (m n : Int) : (int m).lt (int n) = decide (m < n) := by
  simp [lt, place?, Place.before, Int.mul_lt_mul_right unitScale_pos]

variable {x y z : Number}

lemma same_iff : x.same y = true ↔ ∃ p, x.place? = some p ∧ y.place? = some p := by
  unfold same
  cases x.place? with
  | none => simp
  | some p =>
    cases y.place? with
    | none => simp
    | some q => simpa using eq_comm

lemma same_symm (h : x.same y = true) : y.same x = true := by
  obtain ⟨p, hx, hy⟩ := same_iff.mp h
  exact same_iff.mpr ⟨p, hy, hx⟩

lemma same_trans (h : x.same y = true) (h' : y.same z = true) : x.same z = true := by
  obtain ⟨p, hx, hy⟩ := same_iff.mp h
  obtain ⟨q, hy', hz⟩ := same_iff.mp h'
  obtain rfl : p = q := Option.some.inj (hy.symm.trans hy')
  exact same_iff.mpr ⟨p, hx, hz⟩

lemma lt_asymm (h : x.lt y = true) : y.lt x = false := by
  unfold lt at *
  cases hx : x.place? with
  | none => cases y.place? <;> rfl
  | some p =>
    cases hy : y.place? with
    | none => rfl
    | some q =>
      simp only [hx, hy] at h ⊢
      cases p <;> cases q <;> simp_all [Place.before, Int.le_of_lt]

end Number

namespace Moment

variable {a b c : Moment}

lemma same_symm (h : a.same b = true) : b.same a = true := by
  unfold same at *
  cases ha : a.offset <;> cases hb : b.offset <;> simp_all

lemma same_trans (h : a.same b = true) (h' : b.same c = true) : a.same c = true := by
  unfold same at *
  cases ha : a.offset <;> cases hb : b.offset <;> cases hc : c.offset <;> simp_all

lemma before?_asymm (h : a.before? b = some true) : b.before? a = some false := by
  unfold before? at *
  cases ha : a.offset <;> cases hb : b.offset <;> simp_all <;> omega

lemma before?_congr {a' b' : Moment} (ha : a = a' ∨ a.same a' = true)
    (hb : b = b' ∨ b.same b' = true) : a.before? b = a'.before? b' := by
  have hsame : ∀ {m n : Moment}, m = n ∨ m.same n = true →
      m.offset.isSome = n.offset.isSome ∧ (m.offset = none → m.clock = n.clock) ∧
        (m.offset.isSome → m.universalClock = n.universalClock) := by
    rintro m n (rfl | h)
    · exact ⟨rfl, fun _ => rfl, fun _ => rfl⟩
    · unfold same at h
      cases hm : m.offset <;> cases hn : n.offset <;> simp_all
  obtain ⟨hoa, hca, hua⟩ := hsame ha
  obtain ⟨hob, hcb, hub⟩ := hsame hb
  unfold before?
  cases h₁ : a.offset <;> cases h₂ : b.offset <;> cases h₃ : a'.offset <;>
    cases h₄ : b'.offset <;> simp_all

end Moment

namespace Value

/-- Induction over the parts of a value. Truth values count as numbers. -/
theorem byParts {motive : Value → Prop} (null : motive null)
    (number : ∀ v x, v.number? = some x → motive v) (str : ∀ s, motive (str s))
    (list : ∀ items, (∀ v ∈ items, motive v) → motive (list items))
    (object : ∀ entries, (∀ k v, (k, v) ∈ entries → motive v) → motive (object entries))
    (moment : ∀ m, motive (moment m)) (day : ∀ d, motive (day d))
    (pattern : ∀ p, motive (pattern p)) : ∀ v, motive v := by
  refine Value.rec
    (motive_1 := motive)
    (motive_2 := fun items => ∀ v ∈ items, motive v)
    (motive_3 := fun entries => ∀ k v, (k, v) ∈ entries → motive v)
    (motive_4 := fun entry => motive entry.2)
    null (fun b => number _ _ rfl) (fun x => number _ _ rfl) str list object moment day pattern
    ?noItems ?items ?noEntries ?entries ?entry
  case noItems => exact fun v hv => nomatch hv
  case items =>
    intro v rest hv hrest w hw
    rcases List.mem_cons.mp hw with rfl | hw
    · exact hv
    · exact hrest w hw
  case noEntries => exact fun k v hv => nomatch hv
  case entries =>
    rintro ⟨k, v⟩ rest hv hrest k' w hw
    rcases List.mem_cons.mp hw with he | hw
    · cases he
      exact hv
    · exact hrest k' w hw
  case entry => exact fun k v hv => hv

mutual

/-- Whether no object in a value has a key twice. -/
def wellKeyed : Value → Bool
  | .list items => wellKeyedItems items
  | .object entries => decide (entries.map (·.1)).Nodup && wellKeyedEntries entries
  | _ => true

def wellKeyedItems : List Value → Bool
  | [] => true
  | v :: rest => v.wellKeyed && wellKeyedItems rest

def wellKeyedEntries : List (String × Value) → Bool
  | [] => true
  | (_, v) :: rest => v.wellKeyed && wellKeyedEntries rest

end

lemma wellKeyed_list {items : List Value} :
    (list items).wellKeyed = true ↔ ∀ v ∈ items, v.wellKeyed = true := by
  rw [wellKeyed]
  induction items with
  | nil => simp [wellKeyedItems]
  | cons v rest ih => simp [wellKeyedItems, ih]

lemma wellKeyed_object {entries : Entries} :
    (object entries).wellKeyed = true ↔
      (entries.map (·.1)).Nodup ∧ ∀ k v, (k, v) ∈ entries → v.wellKeyed = true := by
  have hentries : wellKeyedEntries entries = true ↔
      ∀ k v, (k, v) ∈ entries → v.wellKeyed = true := by
    induction entries with
    | nil => simp [wellKeyedEntries]
    | cons entry rest ih =>
      rw [wellKeyedEntries, Bool.and_eq_true, ih]
      constructor
      · rintro ⟨hv, hrest⟩ k v hmem
        rcases List.mem_cons.mp hmem with rfl | hmem
        · exact hv
        · exact hrest k v hmem
      · exact fun h => ⟨h entry.1 entry.2 List.mem_cons_self,
          fun k v hmem => h k v (List.mem_cons_of_mem _ hmem)⟩
  rw [wellKeyed, Bool.and_eq_true, decide_eq_true_iff, hentries]

variable {a b c : Value} {x y : Number}

section

attribute [local simp] same

lemma same_null : same null b = true ↔ b = null := by cases b <;> simp

lemma same_str {s : String} : same (str s) b = true ↔ b = str s := by
  cases b with
  | str t => simpa using eq_comm
  | _ => simp

lemma same_moment {m : Moment} :
    same (moment m) b = true ↔ ∃ n, b = moment n ∧ m.same n = true := by
  cases b <;> simp

lemma same_day {d : Day} : same (day d) b = true ↔ b = day d := by
  cases b with
  | day e => simpa using eq_comm
  | _ => simp

lemma same_pattern {p : Pattern} :
    same (pattern p) b = true ↔ ∃ q, b = pattern q ∧ p.source = q.source ∧ p.flags = q.flags := by
  cases b <;> simp

lemma same_number_number (ha : a.number? = some x) (hb : b.number? = some y) :
    same a b = x.same y := by
  cases a <;> cases ha <;> cases b <;> cases hb <;> try rfl
  rename_i b₁ b₂
  rw [Number.same_int]
  cases b₁ <;> cases b₂ <;> rfl

lemma same_number (ha : a.number? = some x) :
    same a b = true ↔ ∃ y, b.number? = some y ∧ x.same y = true := by
  cases hb : b.number? with
  | some y => simp [same_number_number ha hb]
  | none => cases a <;> cases ha <;> cases b <;> simp_all [number?]

lemma same_list {items : List Value} :
    same (list items) b = true ↔
      ∃ others, b = list others ∧ List.Forall₂ (fun v w => same v w = true) items others := by
  have hitems : ∀ items others : List Value, sameItems items others = true ↔
      List.Forall₂ (fun v w => same v w = true) items others := by
    intro items
    induction items with
    | nil => intro others; cases others <;> simp [sameItems]
    | cons v rest ih => intro others; cases others <;> simp [sameItems, ih]
  cases b <;> simp [hitems]

lemma same_object {entries : Entries} :
    same (object entries) b = true ↔ ∃ others, b = object others ∧
      entries.length = others.length ∧
        ∀ k v, (k, v) ∈ entries → ∃ w, lookup? k others = some w ∧ same v w = true := by
  have hentries : ∀ entries others : Entries, sameEntries entries others = true ↔
      ∀ k v, (k, v) ∈ entries → ∃ w, lookup? k others = some w ∧ same v w = true := by
    intro entries others
    induction entries with
    | nil => simp [sameEntries]
    | cons entry rest ih =>
      obtain ⟨k, v⟩ := entry
      rw [sameEntries, Bool.and_eq_true, ih]
      constructor
      · rintro ⟨hv, hrest⟩ k' v' hmem
        rcases List.mem_cons.mp hmem with he | hmem
        · cases he
          cases hlook : lookup? k others with
          | none => simp [hlook] at hv
          | some w => exact ⟨w, rfl, by simpa [hlook] using hv⟩
        · exact hrest k' v' hmem
      · intro h
        obtain ⟨w, hlook, hsame⟩ := h k v List.mem_cons_self
        exact ⟨by simpa [hlook] using hsame, fun k' v' hmem => h k' v' (List.mem_cons_of_mem _ hmem)⟩
  cases b <;> simp [hentries]

end

/-- A relation between the items of two lists, read from the second list. -/
lemma forall₂_flip_of_mem {r r' : Value → Value → Prop} {items others : List Value}
    (h : List.Forall₂ r items others) (himp : ∀ v ∈ items, ∀ w ∈ others, r v w → r' w v) :
    List.Forall₂ r' others items := by
  induction h with
  | nil => exact List.Forall₂.nil
  | cons hvw _ ih =>
    refine List.Forall₂.cons (himp _ List.mem_cons_self _ List.mem_cons_self hvw) (ih ?_)
    exact fun v hv w hw => himp v (List.mem_cons_of_mem _ hv) w (List.mem_cons_of_mem _ hw)

theorem same_symm (ha : a.wellKeyed = true) (hb : b.wellKeyed = true) (h : same a b = true) :
    same b a = true := by
  induction a using byParts generalizing b with
  | null =>
    rw [same_null.mp h]
    rfl
  | number v x hx =>
    obtain ⟨y, hy, hxy⟩ := (same_number hx).mp h
    exact (same_number hy).mpr ⟨x, hx, Number.same_symm hxy⟩
  | str s =>
    rw [same_str.mp h]
    exact same_str.mpr rfl
  | list items ih =>
    obtain ⟨others, rfl, hitems⟩ := same_list.mp h
    refine same_list.mpr ⟨items, rfl, forall₂_flip_of_mem hitems fun v hv w hw => ?_⟩
    exact ih v hv (wellKeyed_list.mp ha v hv) (wellKeyed_list.mp hb w hw)
  | object entries ih =>
    obtain ⟨others, rfl, hlength, hentries⟩ := same_object.mp h
    obtain ⟨hn, hvalues⟩ := wellKeyed_object.mp ha
    obtain ⟨hn', hvalues'⟩ := wellKeyed_object.mp hb
    -- as many keys, all among those of the other object, are all of its keys
    have hsub : entries.map (·.1) ⊆ others.map (·.1) := by
      intro k hk
      obtain ⟨⟨k, v⟩, hmem, rfl⟩ := List.mem_map.mp hk
      obtain ⟨w, hlook, _⟩ := hentries k v hmem
      exact List.mem_map.mpr ⟨(k, w), mem_of_lookup? hlook, rfl⟩
    have hperm : (entries.map (·.1)).Perm (others.map (·.1)) :=
      (List.Nodup.subperm hn hsub).perm_of_length_le (by simp [hlength])
    refine same_object.mpr ⟨entries, rfl, hlength.symm, fun k w hmem => ?_⟩
    obtain ⟨⟨k', v⟩, hv, rfl⟩ :=
      List.mem_map.mp (hperm.symm.subset (List.mem_map_of_mem (f := (·.1)) hmem))
    obtain ⟨w', hlook, hsame⟩ := hentries _ v hv
    obtain rfl : w = w' := Option.some.inj ((lookup?_of_mem hn' hmem).symm.trans hlook)
    exact ⟨v, lookup?_of_mem hn hv, ih _ v hv (hvalues _ v hv) (hvalues' _ w hmem) hsame⟩
  | moment m =>
    obtain ⟨n, rfl, hmn⟩ := same_moment.mp h
    exact same_moment.mpr ⟨m, rfl, Moment.same_symm hmn⟩
  | day d =>
    rw [same_day.mp h]
    exact same_day.mpr rfl
  | pattern p =>
    obtain ⟨q, rfl, hsource, hflags⟩ := same_pattern.mp h
    exact same_pattern.mpr ⟨p, rfl, hsource.symm, hflags.symm⟩

theorem same_trans (h : same a b = true) (h' : same b c = true) : same a c = true := by
  induction a using byParts generalizing b c with
  | null =>
    rw [same_null.mp h] at h'
    exact h'
  | number v x hx =>
    obtain ⟨y, hy, hxy⟩ := (same_number hx).mp h
    obtain ⟨z, hz, hyz⟩ := (same_number hy).mp h'
    exact (same_number hx).mpr ⟨z, hz, Number.same_trans hxy hyz⟩
  | str s =>
    rw [same_str.mp h] at h'
    exact h'
  | list items ih =>
    obtain ⟨others, rfl, hitems⟩ := same_list.mp h
    obtain ⟨more, rfl, hothers⟩ := same_list.mp h'
    refine same_list.mpr ⟨more, rfl, ?_⟩
    clear h h'
    induction hitems generalizing more with
    | nil => exact hothers
    | cons hvw _ ihrest =>
      cases hothers with
      | cons hwu hmore =>
        refine List.Forall₂.cons (ih _ List.mem_cons_self hvw hwu) (ihrest ?_ _ hmore)
        exact fun v hv => ih v (List.mem_cons_of_mem _ hv)
  | object entries ih =>
    obtain ⟨others, rfl, hlength, hentries⟩ := same_object.mp h
    obtain ⟨more, rfl, hlength', hothers⟩ := same_object.mp h'
    refine same_object.mpr ⟨more, rfl, hlength.trans hlength', fun k v hmem => ?_⟩
    obtain ⟨w, hw, hvw⟩ := hentries k v hmem
    obtain ⟨u, hu, hwu⟩ := hothers k w (mem_of_lookup? hw)
    exact ⟨u, hu, ih k v hmem hvw hwu⟩
  | moment m =>
    obtain ⟨n, rfl, hmn⟩ := same_moment.mp h
    obtain ⟨l, rfl, hnl⟩ := same_moment.mp h'
    exact same_moment.mpr ⟨l, rfl, Moment.same_trans hmn hnl⟩
  | day d =>
    rw [same_day.mp h] at h'
    exact h'
  | pattern p =>
    obtain ⟨q, rfl, hsource, hflags⟩ := same_pattern.mp h
    obtain ⟨r, rfl, hsource', hflags'⟩ := same_pattern.mp h'
    exact same_pattern.mpr ⟨r, rfl, hsource.trans hsource', hflags.trans hflags'⟩

lemma same_comm (ha : a.wellKeyed = true) (hb : b.wellKeyed = true) : same a b = same b a :=
  Bool.eq_iff_iff.mpr ⟨same_symm ha hb, same_symm hb ha⟩

lemma before?_number_number (ha : a.number? = some x) (hb : b.number? = some y) :
    before? a b = some (x.lt y) := by
  cases a <;> cases ha <;> cases b <;> cases hb <;> try rfl
  rename_i b₁ b₂
  rw [Number.lt_int]
  cases b₁ <;> cases b₂ <;> rfl

lemma before?_number_none (ha : a.number? = some x) (hb : b.number? = none) :
    before? a b = none := by
  cases a <;> cases ha <;> cases b <;> first | rfl | cases hb

lemma before?_none_number (ha : a.number? = none) (hb : b.number? = some y) :
    before? a b = none := by
  cases b <;> cases hb <;> cases a <;> first | rfl | cases ha

/-- Not both of two values come before the other. -/
theorem before?_asymm (ha : a.wellKeyed = true) (hb : b.wellKeyed = true)
    (h : before? a b = some true) : before? b a = some false := by
  induction a using byParts generalizing b with
  | number v x hx =>
    cases hy : b.number? with
    | none =>
      rw [before?_number_none hx hy] at h
      cases h
    | some y =>
      rw [before?_number_number hx hy] at h
      rw [before?_number_number hy hx, Number.lt_asymm (Option.some.inj h)]
  | str s =>
    cases b <;> simp only [before?, reduceCtorEq, Option.some.injEq, decide_eq_true_iff,
      decide_eq_false_iff_not] at h ⊢
    exact lt_asymm h
  | list items ih =>
    cases b <;> simp only [before?, reduceCtorEq] at h ⊢
    rename_i others
    rw [wellKeyed_list] at ha hb
    induction items generalizing others with
    | nil =>
      cases others with
      | nil => cases h
      | cons => rfl
    | cons v rest ihrest =>
      cases others with
      | nil => cases h
      | cons w others =>
        have hv := ha v List.mem_cons_self
        have hw := hb w List.mem_cons_self
        rw [beforeItems?] at h ⊢
        rw [same_comm hw hv]
        split at h <;> rename_i heq
        · rw [if_pos heq]
          exact ihrest (fun u hu => ih u (List.mem_cons_of_mem _ hu))
            (fun u hu => ha u (List.mem_cons_of_mem _ hu)) others
            (fun u hu => hb u (List.mem_cons_of_mem _ hu)) h
        · rw [if_neg heq]
          exact ih v List.mem_cons_self hv hw h
  | moment m =>
    cases b <;> simp only [before?, reduceCtorEq] at h ⊢
    exact Moment.before?_asymm h
  | day d =>
    cases b <;> simp only [before?, reduceCtorEq, Option.some.injEq, decide_eq_true_iff,
      decide_eq_false_iff_not] at h ⊢
    exact lt_asymm h
  | null | object | pattern => cases b <;> cases h

/-- Values that are equal, or even one and the same. -/
structure Alike (a b : Value) : Prop where
  left : a.wellKeyed = true
  right : b.wellKeyed = true
  equal : a = b ∨ same a b = true

/-- The form of values that are alike, as far as their order is concerned. -/
inductive Matched : Value → Value → Prop
  | null : Matched null null
  | number {v w p q} : v.number? = some p → w.number? = some q → p.place? = q.place? → Matched v w
  | str {s} : Matched (str s) (str s)
  | list {items others} : List.Forall₂ Alike items others → Matched (list items) (list others)
  | object {entries others} : Matched (object entries) (object others)
  | moment {m n} : m = n ∨ m.same n = true → Matched (moment m) (moment n)
  | day {d} : Matched (day d) (day d)
  | pattern {p q} : Matched (pattern p) (pattern q)

lemma forall₂_of_mem {r r' : Value → Value → Prop} {items others : List Value}
    (h : List.Forall₂ r items others) (himp : ∀ v ∈ items, ∀ w ∈ others, r v w → r' v w) :
    List.Forall₂ r' items others :=
  (forall₂_flip_of_mem h himp).flip

lemma Alike.matched (h : Alike a b) : Matched a b := by
  obtain ⟨ha, hb, rfl | h⟩ := h
  · cases hx : a.number? with
    | some x => exact .number hx hx rfl
    | none =>
      cases a with
      | null => exact .null
      | bool | number => cases hx
      | str => exact .str
      | list =>
        exact .list (List.forall₂_same.mpr fun v hv =>
          ⟨wellKeyed_list.mp ha v hv, wellKeyed_list.mp ha v hv, Or.inl rfl⟩)
      | object => exact .object
      | moment => exact .moment (Or.inl rfl)
      | day => exact .day
      | pattern => exact .pattern
  · induction a using byParts with
    | null => exact same_null.mp h ▸ .null
    | number v x hx =>
      obtain ⟨y, hy, hxy⟩ := (same_number hx).mp h
      obtain ⟨p, hp, hp'⟩ := Number.same_iff.mp hxy
      exact .number hx hy (hp.trans hp'.symm)
    | str s => exact same_str.mp h ▸ .str
    | list items =>
      obtain ⟨others, rfl, hitems⟩ := same_list.mp h
      exact .list (forall₂_of_mem hitems fun v hv w hw hvw =>
        ⟨wellKeyed_list.mp ha v hv, wellKeyed_list.mp hb w hw, Or.inr hvw⟩)
    | object entries =>
      obtain ⟨others, rfl, -⟩ := same_object.mp h
      exact .object
    | moment m =>
      obtain ⟨n, rfl, hmn⟩ := same_moment.mp h
      exact .moment (Or.inr hmn)
    | day d => exact same_day.mp h ▸ .day
    | pattern p =>
      obtain ⟨q, rfl, -⟩ := same_pattern.mp h
      exact .pattern

variable {a' b' : Value}

lemma Alike.symm (h : Alike a b) : Alike b a :=
  ⟨h.right, h.left, h.equal.imp Eq.symm (same_symm h.left h.right)⟩

lemma Alike.same_trans (h : Alike a b) (h' : Value.same b c = true) : Value.same a c = true := by
  rcases h.equal with rfl | hab
  · exact h'
  · exact Value.same_trans hab h'

lemma same_congr (ha : Alike a a') (hb : Alike b b') : same a b = same a' b' := by
  have himp : ∀ {a a' b b'}, Alike a a' → Alike b b' → same a b = true → same a' b' = true := by
    intro a a' b b' ha hb h
    have h' : same a' b = true := ha.symm.same_trans h
    exact same_symm hb.right ha.right (hb.symm.same_trans (same_symm ha.right hb.left h'))
  exact Bool.eq_iff_iff.mpr ⟨himp ha hb, himp ha.symm hb.symm⟩

/-- Lists whose items compare alike do so too. -/
lemma beforeItems?_congr {items items' others others' : List Value}
    (hall : ∀ v ∈ items, ∀ v' w w', Alike v v' → Alike w w' → before? v w = before? v' w')
    (hitems : List.Forall₂ Alike items items') (hothers : List.Forall₂ Alike others others') :
    beforeItems? items others = beforeItems? items' others' := by
  induction hitems generalizing others others' with
  | nil => cases hothers <;> rfl
  | cons hvv _ ih =>
    cases hothers with
    | nil => rfl
    | cons hww hothers =>
      rw [beforeItems?, beforeItems?, same_congr hvv hww, hall _ List.mem_cons_self _ _ _ hvv hww,
        ih (fun v hv => hall v (List.mem_cons_of_mem _ hv)) hothers]

lemma before?_congr_of_items
    (hall : ∀ items, a = list items → ∀ v ∈ items, ∀ v' w w', Alike v v' → Alike w w' →
      before? v w = before? v' w')
    (ha : Alike a a') (hb : Alike b b') : before? a b = before? a' b' := by
  cases ha.matched with
  | number hx hx' hp =>
    cases hb.matched with
    | number hy hy' hq =>
      rw [before?_number_number hx hy, before?_number_number hx' hy', Number.lt, Number.lt, hp, hq]
    | _ => rw [before?_number_none hx rfl, before?_number_none hx' rfl]
  | list hitems =>
    cases hb.matched with
    | number hy hy' => rw [before?_none_number rfl hy, before?_none_number rfl hy']
    | list hothers => exact beforeItems?_congr (hall _ rfl) hitems hothers
    | _ => rfl
  | moment hm =>
    cases hb.matched with
    | number hy hy' => rw [before?_none_number rfl hy, before?_none_number rfl hy']
    | moment hn => exact Moment.before?_congr hm hn
    | _ => rfl
  | _ =>
    cases hb.matched with
    | number hy hy' => rw [before?_none_number rfl hy, before?_none_number rfl hy']
    | _ => rfl

/-- Values that are alike compare alike. -/
theorem before?_congr (ha : Alike a a') (hb : Alike b b') : before? a b = before? a' b' := by
  induction a using byParts generalizing a' b b' with
  | list items ih =>
    refine before?_congr_of_items (fun others he v hv v' w w' => ?_) ha hb
    cases he
    exact ih v hv
  | number v x hx =>
    refine before?_congr_of_items (fun items he => ?_) ha hb
    rw [he] at hx
    cases hx
  | _ => exact before?_congr_of_items (fun items he => nomatch he) ha hb

end Value

namespace KeyPath

variable {v w k l : Value} {items others : List Value}

/-- A position stands for the same place in all lists of a length. -/
lemma exists_place {i : Int} (h : item? items i = some v) :
    ∃ n : Nat, items[n]? = some v ∧ ∀ others : List Value, others.length = items.length →
      item? others i = others[n]? := by
  unfold item? at h
  by_cases hneg : (if i < 0 then i + items.length else i) < 0
  · rw [if_pos hneg] at h
    cases h
  · rw [if_neg hneg] at h
    refine ⟨_, h, fun others hlength => ?_⟩
    unfold item?
    rw [hlength, if_neg hneg]

lemma mem_of_item? {i : Int} (h : item? items i = some v) : v ∈ items := by
  obtain ⟨n, hn, _⟩ := exists_place h
  exact List.mem_of_getElem? hn

lemma exists_item? (hitems : List.Forall₂ (fun v w => Value.same v w = true) items others)
    {i : Int} (h : item? items i = some v) :
    ∃ w, item? others i = some w ∧ v.same w = true := by
  obtain ⟨n, hn, hplace⟩ := exists_place h
  obtain ⟨hlt, rfl⟩ := List.getElem?_eq_some_iff.mp hn
  have hlt' : n < others.length := hitems.length_eq ▸ hlt
  refine ⟨others[n], ?_, hitems.get hlt hlt'⟩
  rw [hplace others hitems.length_eq.symm, List.getElem?_eq_getElem hlt']

lemma wellKeyed_of_follow? {parts : List String} (hv : v.wellKeyed = true)
    (h : follow? parts v = some k) : k.wellKeyed = true := by
  induction parts generalizing v with
  | nil =>
    cases h
    exact hv
  | cons part rest ih =>
    cases v with
    | object entries =>
      obtain ⟨w, hlook, hrest⟩ := Option.bind_eq_some_iff.mp h
      exact ih ((Value.wellKeyed_object.mp hv).2 part w (mem_of_lookup? hlook)) hrest
    | list items =>
      obtain ⟨w, hitem, hrest⟩ := Option.bind_eq_some_iff.mp h
      obtain ⟨i, _, hi⟩ := Option.bind_eq_some_iff.mp hitem
      exact ih (Value.wellKeyed_list.mp hv w (mem_of_item? hi)) hrest
    | _ => cases h

/-- A path that leads somewhere in a value leads to something equal in an equal value. -/
lemma exists_follow? {parts : List String} (hsame : v.same w = true)
    (h : follow? parts v = some k) : ∃ l, follow? parts w = some l ∧ k.same l = true := by
  induction parts generalizing v w with
  | nil =>
    cases h
    exact ⟨w, rfl, hsame⟩
  | cons part rest ih =>
    cases v with
    | object entries =>
      obtain ⟨others, rfl, _, hentries⟩ := Value.same_object.mp hsame
      obtain ⟨a, hlook, hrest⟩ := Option.bind_eq_some_iff.mp h
      obtain ⟨b, hb, hab⟩ := hentries part a (mem_of_lookup? hlook)
      obtain ⟨l, hl, hkl⟩ := ih hab hrest
      exact ⟨l, by rw [follow?, hb]; exact hl, hkl⟩
    | list items =>
      obtain ⟨others, rfl, hitems⟩ := Value.same_list.mp hsame
      obtain ⟨a, hitem, hrest⟩ := Option.bind_eq_some_iff.mp h
      obtain ⟨i, hread, hi⟩ := Option.bind_eq_some_iff.mp hitem
      obtain ⟨b, hb, hab⟩ := exists_item? hitems hi
      obtain ⟨l, hl, hkl⟩ := ih hab hrest
      exact ⟨l, by rw [follow?, hread, Option.bind_some, hb]; exact hl, hkl⟩
    | _ => cases h

/-- The keys of items that are alike are alike. -/
theorem alike_of_reach {by_ : KeyPath} (h : v.Alike w) (hk : by_.reach v = .ok (some k))
    (hl : by_.reach w = .ok (some l)) : k.Alike l := by
  cases by_ with
  | whole =>
    cases hk
    cases hl
    exact h
  | path text =>
    have hk' := Except.ok.inj hk
    have hl' := Except.ok.inj hl
    refine ⟨wellKeyed_of_follow? h.left hk', wellKeyed_of_follow? h.right hl', ?_⟩
    rcases h.equal with rfl | hsame
    · exact Or.inl (Option.some.inj (hk'.symm.trans hl'))
    · obtain ⟨l', hl'', hkl⟩ := exists_follow? hsame hk'
      exact Or.inr (Option.some.inj (hl''.symm.trans hl') ▸ hkl)
  | unusable => cases hk

end KeyPath

end InputGuard

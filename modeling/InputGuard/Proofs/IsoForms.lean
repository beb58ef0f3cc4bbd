import InputGuard.Proofs.TimestampTexts

/-!
# Ways to read an ISO 8601 form

A reading is known by the rests that it leaves. The parts of a date take a fixed number of
characters each, so that little is left open about the form of a text that starts with eight digits:
after them comes the end, a final line feed, or the time.
-/

namespace InputGuard

open Unicode

namespace Reading

variable {α β : Type} {r : Reading α} {s rest : List Char}

lemma mem_pure {a b : α} : (b, rest) ∈ (pure a : Reading α) s ↔ b = a ∧ rest = s := by
  change (b, rest) ∈ [(a, s)] ↔ _
  rw [List.mem_singleton, Prod.mk.injEq]

lemma mem_bind {f : α → Reading β} {b : β} :
    (b, rest) ∈ (r >>= f) s ↔ ∃ a mid, (a, mid) ∈ r s ∧ (b, rest) ∈ f a mid := by
  change (b, rest) ∈ (r s).flatMap (fun read => f read.1 read.2) ↔ _
  rw [List.mem_flatMap, Prod.exists]

lemma mem_either {r' : Reading α} {a : α} :
    (a, rest) ∈ either r r' s ↔ (a, rest) ∈ r s ∨ (a, rest) ∈ r' s :=
  List.mem_append

lemma mem_optional {o : Option α} :
    (o, rest) ∈ optional r s ↔ (∃ a, o = some a ∧ (a, rest) ∈ r s) ∨ o = none ∧ rest = s := by
  unfold optional
  rw [List.mem_append, List.mem_singleton, Prod.mk.injEq, List.mem_map]
  refine or_congr_left ⟨?_, ?_⟩
  · rintro ⟨⟨a, mid⟩, hmem, heq⟩
    cases heq
    exact ⟨a, rfl, hmem⟩
  · rintro ⟨a, rfl, hmem⟩
    exact ⟨(a, rest), hmem, rfl⟩

lemma mem_charThat {p : Char → Bool} {c : Char} :
    (c, rest) ∈ charThat p s ↔ s = c :: rest ∧ p c = true := by
  cases s with
  | nil => exact iff_of_false List.not_mem_nil nofun
  | cons d more =>
    unfold charThat
    dsimp only
    by_cases hd : p d = true
    · rw [if_pos hd, List.mem_singleton, Prod.mk.injEq, List.cons.injEq]
      constructor
      · rintro ⟨rfl, rfl⟩
        exact ⟨⟨rfl, rfl⟩, hd⟩
      · rintro ⟨⟨rfl, rfl⟩, -⟩
        exact ⟨rfl, rfl⟩
    · rw [if_neg hd]
      refine iff_of_false List.not_mem_nil ?_
      rintro ⟨heq, hc⟩
      rw [← (List.cons.inj heq).1] at hc
      exact hd hc

lemma mem_refuse {p : List Char → Bool} {u : Unit} :
    (u, rest) ∈ refuse p s ↔ p s = false ∧ rest = s := by
  unfold refuse
  by_cases hp : p s = true
  · rw [if_pos hp]
    exact iff_of_false List.not_mem_nil (fun h => by rw [hp] at h; cases h.1)
  · rw [if_neg hp, List.mem_singleton, Prod.mk.injEq]
    exact and_congr_left fun _ => iff_of_true rfl (by simpa using hp)

lemma mem_char {c d : Char} : (d, rest) ∈ char c s ↔ s = c :: rest ∧ d = c := by
  unfold char
  rw [mem_charThat, beq_iff_eq]
  constructor
  · rintro ⟨rfl, rfl⟩
    exact ⟨rfl, rfl⟩
  · rintro ⟨rfl, rfl⟩
    exact ⟨rfl, rfl⟩

lemma mem_exactly {p : Char → Bool} {n : ℕ} {u : Unit} : (u, rest) ∈ exactly p n s ↔
    ∃ cs, s = cs ++ rest ∧ cs.length = n ∧ ∀ c ∈ cs, p c = true := by
  induction n generalizing s with
  | zero =>
    refine mem_pure.trans ⟨fun h => ⟨[], h.2.symm, rfl, nofun⟩, ?_⟩
    rintro ⟨cs, hs, hlength, -⟩
    rw [List.length_eq_zero_iff.mp hlength] at hs
    exact ⟨rfl, hs.symm⟩
  | succ n ih =>
    refine mem_bind.trans ⟨?_, ?_⟩
    · rintro ⟨c, mid, hmid, hrest⟩
      obtain ⟨rfl, hc⟩ := mem_charThat.mp hmid
      obtain ⟨cs, rfl, hlength, hcs⟩ := ih.mp hrest
      exact ⟨c :: cs, rfl, congrArg (· + 1) hlength, List.forall_mem_cons.mpr ⟨hc, hcs⟩⟩
    · rintro ⟨cs, rfl, hlength, hcs⟩
      obtain ⟨c, cs, rfl⟩ := List.exists_cons_of_length_eq_add_one hlength
      obtain ⟨hc, hcs⟩ := List.forall_mem_cons.mp hcs
      exact ⟨c, cs ++ rest, mem_charThat.mpr ⟨rfl, hc⟩,
        ih.mpr ⟨cs, rfl, Nat.succ_injective hlength, hcs⟩⟩

lemma mem_exactly_bind {p : Char → Bool} {n : ℕ} {f : Unit → Reading β} {b : β} :
    (b, rest) ∈ (exactly p n >>= f) s ↔
      ∃ cs mid, s = cs ++ mid ∧ cs.length = n ∧ (∀ c ∈ cs, p c = true) ∧ (b, rest) ∈ f () mid := by
  refine mem_bind.trans ⟨?_, ?_⟩
  · rintro ⟨u, mid, hmid, hrest⟩
    obtain ⟨cs, hs, hlength, hcs⟩ := mem_exactly.mp hmid
    exact ⟨cs, mid, hs, hlength, hcs, hrest⟩
  · rintro ⟨cs, mid, hs, hlength, hcs, hrest⟩
    exact ⟨(), mid, mem_exactly.mpr ⟨cs, hs, hlength, hcs⟩, hrest⟩

lemma mem_oneOrMore {p : Char → Bool} {u : Unit} : (u, rest) ∈ oneOrMore p s ↔
    ∃ cs, s = cs ++ rest ∧ cs ≠ [] ∧ ∀ c ∈ cs, p c = true := by
  induction s with
  | nil =>
    refine iff_of_false List.not_mem_nil ?_
    rintro ⟨cs, hs, hne, -⟩
    exact hne (List.append_eq_nil_iff.mp hs.symm).1
  | cons d more ih =>
    unfold oneOrMore
    by_cases hd : p d = true
    · rw [if_pos hd, List.mem_cons, ih]
      constructor
      · rintro (h | ⟨cs, rfl, -, hcs⟩)
        · obtain rfl := (Prod.mk.inj h).2
          exact ⟨[d], rfl, List.cons_ne_nil _ _, List.forall_mem_singleton.mpr hd⟩
        · exact ⟨d :: cs, rfl, List.cons_ne_nil _ _, List.forall_mem_cons.mpr ⟨hd, hcs⟩⟩
      · rintro ⟨cs, hs, hne, hcs⟩
        obtain ⟨c, cs, rfl⟩ := List.exists_cons_of_ne_nil hne
        obtain ⟨rfl, rfl⟩ := List.cons.inj hs
        cases cs with
        | nil => exact Or.inl rfl
        | cons c' cs =>
          exact Or.inr ⟨c' :: cs, rfl, List.cons_ne_nil _ _, (List.forall_mem_cons.mp hcs).2⟩
    · rw [if_neg hd]
      refine iff_of_false List.not_mem_nil ?_
      rintro ⟨cs, hs, hne, hcs⟩
      obtain ⟨c, cs, rfl⟩ := List.exists_cons_of_ne_nil hne
      obtain ⟨rfl, rfl⟩ := List.cons.inj hs
      exact hd (hcs d List.mem_cons_self)

lemma accepts_iff :
    r.accepts s = true ↔ ∃ a rest, (a, rest) ∈ r s ∧ (rest = [] ∨ rest = ['\n']) := by
  unfold accepts
  rw [List.any_eq_true, Prod.exists]
  simp only [Bool.or_eq_true, List.isEmpty_iff, beq_iff_eq]

/-- Each way to read takes `n` characters. -/
def Takes (r : Reading α) (n : ℕ) : Prop :=
  ∀ ⦃s : List Char⦄ ⦃a : α⦄ ⦃rest : List Char⦄, (a, rest) ∈ r s → rest = s.drop n

namespace Takes

lemma pure (a : α) : Takes (Pure.pure a) 0 := fun _ _ _ h => (mem_pure.mp h).2

lemma bind {f : α → Reading β} {n k : ℕ} (hr : r.Takes n) (hf : ∀ a, (f a).Takes k) :
    (r >>= f).Takes (n + k) := by
  intro s b rest h
  obtain ⟨a, mid, hmid, hrest⟩ := mem_bind.mp h
  rw [hf a hrest, hr hmid, List.drop_drop]

lemma either {r' : Reading α} {n : ℕ} (hr : r.Takes n) (hr' : r'.Takes n) :
    (Reading.either r r').Takes n :=
  fun _ _ _ h => (mem_either.mp h).elim (fun h => hr h) (fun h => hr' h)

lemma charThat (p : Char → Bool) : (Reading.charThat p).Takes 1 := by
  intro s c rest h
  obtain ⟨rfl, -⟩ := mem_charThat.mp h
  rfl

lemma exactly (p : Char → Bool) (n : ℕ) : (Reading.exactly p n).Takes n := by
  induction n with
  | zero => exact pure ()
  | succ n ih =>
    have hstep := (charThat p).bind fun _ => ih
    rwa [Nat.add_comm] at hstep

end Takes

/-- Each way to read starts with a character that `p` holds of. -/
def Starts (r : Reading α) (p : Char → Prop) : Prop :=
  ∀ ⦃s : List Char⦄ ⦃a : α⦄ ⦃rest : List Char⦄, (a, rest) ∈ r s → ∃ c more, s = c :: more ∧ p c

namespace Starts

variable {p : Char → Prop}

lemma charThat {t : Char → Bool} (h : ∀ c, t c = true → p c) : (Reading.charThat t).Starts p := by
  intro s c rest hmem
  obtain ⟨rfl, hc⟩ := mem_charThat.mp hmem
  exact ⟨c, rest, rfl, h c hc⟩

lemma bind (hr : r.Starts p) (f : α → Reading β) : (r >>= f).Starts p := by
  intro s b rest hmem
  obtain ⟨a, mid, hmid, -⟩ := mem_bind.mp hmem
  exact hr hmid

lemma either {r' : Reading α} (hr : r.Starts p) (hr' : r'.Starts p) :
    (Reading.either r r').Starts p :=
  fun _ _ _ hmem => (mem_either.mp hmem).elim (fun h => hr h) (fun h => hr' h)

end Starts

/-- The characters that are read all satisfy `p`. -/
def Reads (r : Reading α) (p : Char → Prop) : Prop :=
  ∀ ⦃s : List Char⦄ ⦃a : α⦄ ⦃rest : List Char⦄, (a, rest) ∈ r s →
    ∃ front, s = front ++ rest ∧ ∀ c ∈ front, p c

namespace Reads

variable {p : Char → Prop}

lemma pure (a : α) : Reads (Pure.pure a) p :=
  fun _ _ _ h => ⟨[], (mem_pure.mp h).2.symm, nofun⟩

lemma bind {f : α → Reading β} (hr : r.Reads p) (hf : ∀ a, (f a).Reads p) :
    (r >>= f).Reads p := by
  intro s b rest h
  obtain ⟨a, mid, hmid, hrest⟩ := mem_bind.mp h
  obtain ⟨front, rfl, hfront⟩ := hr hmid
  obtain ⟨front', rfl, hfront'⟩ := hf a hrest
  exact ⟨front ++ front', (List.append_assoc _ _ _).symm,
    List.forall_mem_append.mpr ⟨hfront, hfront'⟩⟩

lemma either {r' : Reading α} (hr : r.Reads p) (hr' : r'.Reads p) :
    (Reading.either r r').Reads p :=
  fun _ _ _ h => (mem_either.mp h).elim (fun h => hr h) (fun h => hr' h)

lemma optional (hr : r.Reads p) : (Reading.optional r).Reads p := by
  intro s o rest h
  rcases mem_optional.mp h with ⟨a, -, ha⟩ | ⟨-, rfl⟩
  · exact hr ha
  · exact ⟨[], rfl, nofun⟩

lemma charThat {t : Char → Bool} (h : ∀ c, t c = true → p c) : (Reading.charThat t).Reads p := by
  intro s c rest hmem
  obtain ⟨rfl, hc⟩ := mem_charThat.mp hmem
  exact ⟨[c], rfl, List.forall_mem_singleton.mpr (h c hc)⟩

lemma exactly {t : Char → Bool} (h : ∀ c, t c = true → p c) (n : ℕ) :
    (Reading.exactly t n).Reads p := by
  intro s u rest hmem
  obtain ⟨cs, hs, -, hcs⟩ := mem_exactly.mp hmem
  exact ⟨cs, hs, fun c hc => h c (hcs c hc)⟩

lemma oneOrMore {t : Char → Bool} (h : ∀ c, t c = true → p c) :
    (Reading.oneOrMore t).Reads p := by
  intro s u rest hmem
  obtain ⟨cs, hs, -, hcs⟩ := mem_oneOrMore.mp hmem
  exact ⟨cs, hs, fun c hc => h c (hcs c hc)⟩

lemma refuse (t : List Char → Bool) : (Reading.refuse t).Reads p :=
  fun _ _ _ h => ⟨[], (mem_refuse.mp h).2.symm, nofun⟩

end Reads

/-- What stands before the first character of a kind is known by it. -/
lemma append_cons_inj {t : Char → Bool} {front front' more more' : List Char} {c c' : Char}
    (h : front ++ c :: more = front' ++ c' :: more') (hfront : ∀ d ∈ front, t d = false)
    (hfront' : ∀ d ∈ front', t d = false) (hc : t c = true) (hc' : t c' = true) :
    front = front' ∧ c = c' ∧ more = more' := by
  induction front generalizing front' with
  | nil =>
    cases front' with
    | nil => exact ⟨rfl, List.cons.inj h⟩
    | cons d front' =>
      rw [(List.cons.inj h).1, hfront' d List.mem_cons_self] at hc
      cases hc
  | cons d front ih =>
    cases front' with
    | nil =>
      rw [← (List.cons.inj h).1, hfront d List.mem_cons_self] at hc'
      cases hc'
    | cons d' front' =>
      obtain ⟨rfl, htail⟩ := List.cons.inj h
      obtain ⟨rfl, hrest⟩ := ih htail (List.forall_mem_cons.mp hfront).2
        (List.forall_mem_cons.mp hfront').2
      exact ⟨rfl, hrest⟩

end Reading

namespace IsoForm

open Reading

variable {s rest : List Char} {u : Unit}

lemma digitIn_takes (lo hi : Char) : (digitIn lo hi).Takes 1 :=
  (Takes.charThat _).bind fun _ => .pure ()

lemma digit_takes : digit.Takes 1 := (Takes.charThat _).bind fun _ => .pure ()

lemma skip_takes (c : Char) : (skip c).Takes 1 := (Takes.charThat _).bind fun _ => .pure ()

lemma month_takes : month.Takes 2 :=
  .either ((skip_takes _).bind fun _ => digitIn_takes _ _)
    ((skip_takes _).bind fun _ => digitIn_takes _ _)

lemma dayOfMonth_takes : dayOfMonth.Takes 2 :=
  .either ((digitIn_takes _ _).bind fun _ => digit_takes)
    (.either ((skip_takes _).bind fun _ => digitIn_takes _ _)
      ((skip_takes _).bind fun _ => digitIn_takes _ _))

lemma dayOfYear_takes : dayOfYear.Takes 3 :=
  .either ((skip_takes _).bind fun _ => (skip_takes _).bind fun _ => digitIn_takes _ _)
    (.either ((skip_takes _).bind fun _ => (digitIn_takes _ _).bind fun _ => digit_takes)
      (.either ((digitIn_takes _ _).bind fun _ => .exactly _ _)
        ((skip_takes _).bind fun _ => .either ((digitIn_takes _ _).bind fun _ => digit_takes)
          ((skip_takes _).bind fun _ => digitIn_takes _ _))))

lemma mem_maybe {r : Reading Unit} :
    (u, rest) ∈ maybe r s ↔ (u, rest) ∈ r s ∨ rest = s := by
  unfold maybe
  rw [mem_bind]
  constructor
  · rintro ⟨o, mid, hmid, hrest⟩
    obtain rfl := (mem_pure.mp hrest).2
    rcases mem_optional.mp hmid with ⟨a, -, ha⟩ | ⟨-, rfl⟩
    · exact Or.inl ha
    · exact Or.inr rfl
  · rintro (h | rfl)
    · exact ⟨some u, rest, mem_optional.mpr (Or.inl ⟨u, rfl, h⟩), mem_pure.mpr ⟨rfl, rfl⟩⟩
    · exact ⟨none, rest, mem_optional.mpr (Or.inr ⟨rfl, rfl⟩), mem_pure.mpr ⟨rfl, rfl⟩⟩

lemma digitIn_starts {lo hi : Char} (hlo : '0' ≤ lo) (hhi : hi ≤ '9') :
    (digitIn lo hi).Starts (·.isDigit = true) := by
  refine Starts.bind (Starts.charThat fun c hc => ?_) _
  rw [Bool.and_eq_true, decide_eq_true_iff, decide_eq_true_iff] at hc
  rw [Char.isDigit, Bool.and_eq_true, decide_eq_true_iff, decide_eq_true_iff]
  exact ⟨Char.le_trans hlo hc.1, Char.le_trans hc.2 hhi⟩

lemma skip_starts {c : Char} (hc : c.isDigit = true) : (skip c).Starts (·.isDigit = true) :=
  Starts.bind (Starts.charThat fun _ h => (beq_iff_eq.mp h) ▸ hc) _

lemma hour_starts : hour.Starts (·.isDigit = true) :=
  .either ((digitIn_starts (by decide) (by decide)).bind _) ((skip_starts (by decide)).bind _)

lemma hourMinute_starts : hourMinute.Starts (·.isDigit = true) :=
  .either (hour_starts.bind _) ((skip_starts (by decide)).bind _)

/-- A time is read after a `T` or a blank, from a digit on. -/
lemma starts_of_mem_timePart (h : (u, rest) ∈ timePart s) :
    ∃ c d more, s = c :: d :: more ∧ (c = 'T' ∨ isBlank c = true) ∧ d.isDigit = true := by
  obtain ⟨c, mid, hmid, htime⟩ := mem_bind.mp h
  obtain ⟨hs, hc⟩ := mem_charThat.mp hmid
  obtain ⟨colon, mid', hmid', -⟩ := mem_bind.mp htime
  obtain ⟨d, more, hd, hdigit⟩ := hourMinute_starts hmid'
  rw [hd] at hs
  rw [Bool.or_eq_true, decide_eq_true_iff] at hc
  exact ⟨c, d, more, hs, hc, hdigit⟩

lemma mem_skip {c : Char} : (u, rest) ∈ skip c s ↔ s = c :: rest := by
  refine mem_bind.trans ⟨?_, ?_⟩
  · rintro ⟨d, mid, hmid, hrest⟩
    obtain rfl := (mem_pure.mp hrest).2
    exact (mem_char.mp hmid).1
  · rintro rfl
    exact ⟨c, rest, mem_char.mpr ⟨rfl, rfl⟩, mem_pure.mpr ⟨rfl, rfl⟩⟩

lemma mem_skip_bind {β : Type} {c : Char} {f : Unit → Reading β} {b : β} :
    (b, rest) ∈ (skip c >>= f) s ↔ ∃ mid, s = c :: mid ∧ (b, rest) ∈ f () mid := by
  refine mem_bind.trans ⟨?_, ?_⟩
  · rintro ⟨v, mid, hmid, hrest⟩
    exact ⟨mid, mem_skip.mp hmid, hrest⟩
  · rintro ⟨mid, hs, hrest⟩
    exact ⟨(), mid, mem_skip.mpr hs, hrest⟩

lemma head?_of_mem_charThat {p : Char → Bool} {c : Char} (h : (c, rest) ∈ charThat p s) :
    s.head? = some c ∧ p c = true := by
  obtain ⟨hs, hc⟩ := mem_charThat.mp h
  exact ⟨congrArg List.head? hs, hc⟩

/-- Without a dash, months and days take two characters each and days of the year take three. -/
lemma drop_of_mem_dayPart (hdash : s.head? ≠ some '-') (hweek : s.head? ≠ some 'W')
    (h : (u, rest) ∈ dayPart s) : rest = s.drop 2 ∨ rest = s.drop 3 ∨ rest = s.drop 4 := by
  obtain ⟨dash, mid, hmid, hparts⟩ := mem_bind.mp h
  obtain ⟨rfl, rfl⟩ : dash = none ∧ mid = s := by
    rcases mem_optional.mp hmid with ⟨c, -, hc⟩ | hnone
    · obtain ⟨hhead, hc'⟩ := head?_of_mem_charThat hc
      rw [beq_iff_eq.mp hc'] at hhead
      exact absurd hhead hdash
    · exact hnone
  rcases mem_either.mp hparts with hmonth | hother
  · obtain ⟨v, rest', hrest', hday⟩ := mem_bind.mp hmonth
    have hdrop := month_takes hrest'
    rcases mem_maybe.mp hday with hday | rfl
    · have hdrop' := dayOfMonth_takes hday
      rw [hdrop, List.drop_drop] at hdrop'
      exact Or.inr (Or.inr hdrop')
    · exact Or.inl hdrop
  · rcases mem_either.mp hother with hweekday | hyear
    · obtain ⟨v, rest', hskip, -⟩ := mem_bind.mp hweekday
      obtain ⟨c, rest'', hc, -⟩ := mem_bind.mp hskip
      obtain ⟨hhead, hc'⟩ := head?_of_mem_charThat hc
      rw [beq_iff_eq.mp hc'] at hhead
      exact absurd hhead hweek
    · exact Or.inr (Or.inl (dayOfYear_takes hyear))

/-- A form starts with a sign or a digit. -/
lemma whole_starts : whole.Starts fun c => c = '-' ∨ c = '+' ∨ isDecimal c = true := by
  refine Starts.bind ?_ _
  intro s u rest h
  obtain ⟨v, mid, hmid, hyear⟩ := mem_bind.mp h
  rcases mem_maybe.mp hmid with hcentury | rfl
  · obtain ⟨c, mid', hc, -⟩ := mem_bind.mp hcentury
    obtain ⟨hs, hsign⟩ := mem_charThat.mp hc
    rw [Bool.or_eq_true, decide_eq_true_iff, decide_eq_true_iff] at hsign
    exact ⟨c, mid', hs, hsign.elim Or.inl fun h => Or.inr (Or.inl h)⟩
  · obtain ⟨v', mid', hdigits, -⟩ := mem_bind.mp hyear
    obtain ⟨c, mid'', hc, -⟩ := mem_bind.mp hdigits
    obtain ⟨hs, hdigit⟩ := mem_charThat.mp hc
    exact ⟨c, mid'', hs, Or.inr (Or.inr hdigit)⟩

/-- After a year without a sign the form is at its end, or goes on with the day. -/
lemma mem_whole (hdash : s.head? ≠ some '-') (hplus : s.head? ≠ some '+')
    (h : (u, rest) ∈ whole s) : rest = s.drop 4 ∨
      ∃ mid, (u, mid) ∈ dayPart (s.drop 4) ∧ ((u, rest) ∈ timePart mid ∨ rest = mid) := by
  obtain ⟨v, mid, hyear, hmaybe⟩ := mem_bind.mp h
  have hmid : mid = s.drop 4 := by
    obtain ⟨v, mid', hmid', hdigits⟩ := mem_bind.mp hyear
    obtain rfl : mid' = s := by
      rcases mem_maybe.mp hmid' with hcentury | hsame
      · obtain ⟨c, rest', hc, -⟩ := mem_bind.mp hcentury
        obtain ⟨hhead, hsign⟩ := head?_of_mem_charThat hc
        rw [Bool.or_eq_true, decide_eq_true_iff, decide_eq_true_iff] at hsign
        rcases hsign with rfl | rfl
        · exact absurd hhead hdash
        · exact absurd hhead hplus
      · exact hsame
    obtain ⟨v, mid'', hmid'', hrefuse⟩ := mem_bind.mp hdigits
    obtain ⟨-, rfl⟩ := mem_refuse.mp hrefuse
    exact Takes.exactly _ _ hmid''
  rw [hmid] at hmaybe
  rcases mem_maybe.mp hmaybe with hday | hend
  · obtain ⟨v, mid', hmid', hrest⟩ := mem_bind.mp hday
    obtain ⟨v, mid'', hrefuse, htime⟩ := mem_bind.mp hrest
    obtain ⟨-, rfl⟩ := mem_refuse.mp hrefuse
    exact Or.inr ⟨mid'', hmid', mem_maybe.mp htime⟩
  · exact Or.inl hend

end IsoForm

section Digits

open Reading IsoForm

variable {ds rest last more : List Char} {c : Char} {u : Unit}

lemma exists_digit_drop (hdigits : ∀ c ∈ ds, c.isDigit = true) {k : ℕ} (hk : k < ds.length) :
    ∃ c more, (ds ++ rest).drop k = c :: more ∧ c.isDigit = true := by
  have hlt : k < (ds ++ rest).length := by rw [List.length_append]; omega
  refine ⟨(ds ++ rest)[k], _, List.drop_eq_getElem_cons hlt, ?_⟩
  rw [List.getElem_append_left hk]
  exact hdigits _ (List.getElem_mem _)

/-- Before a digit there is neither the end of a form nor its time. -/
lemma not_end_of_digit (hlast : last = [] ∨ last = ['\n']) (hdigit : c.isDigit = true) :
    ¬((u, last) ∈ timePart (c :: more) ∨ last = c :: more) := by
  rintro (hmem | rfl)
  · obtain ⟨c', d, more', hs, hc', -⟩ := starts_of_mem_timePart hmem
    rw [← (List.cons.inj hs).1, not_isBlank_of_isDecimal (isDecimal_of_isDigit hdigit)] at hc'
    rcases hc' with rfl | hblank
    · cases hdigit
    · cases hblank
  · rcases hlast with hnil | hfeed
    · cases hnil
    · rw [(List.cons.inj hfeed).1] at hdigit
      cases hdigit

/-- After eight digits a form is at its end, at a final line feed, or at a time. -/
theorem end_of_isIsoForm (hlength : ds.length = 8) (hdigits : ∀ c ∈ ds, c.isDigit = true)
    (h : isIsoForm (ds ++ rest) = true) : rest = [] ∨ rest = ['\n'] ∨
      ∃ c d more, rest = c :: d :: more ∧ (c = 'T' ∨ isBlank c = true) ∧ d.isDigit = true := by
  obtain ⟨u, last, hwhole, hlast⟩ := accepts_iff.mp h
  have hhead : ∀ k < 8, ∀ c, c.isDigit = false → ((ds ++ rest).drop k).head? ≠ some c := by
    intro k hk c hc heq
    obtain ⟨d, more, hd, hdigit⟩ := exists_digit_drop hdigits (hlength ▸ hk)
    rw [hd] at heq
    rw [Option.some.inj heq, hc] at hdigit
    cases hdigit
  have hgoes : ∀ k < 8, ¬((u, last) ∈ timePart ((ds ++ rest).drop k) ∨
      last = (ds ++ rest).drop k) := by
    intro k hk
    obtain ⟨c, more, hc, hdigit⟩ := exists_digit_drop hdigits (hlength ▸ hk)
    rw [hc]
    exact not_end_of_digit hlast hdigit
  rcases mem_whole (hhead 0 (by decide) '-' rfl) (hhead 0 (by decide) '+' rfl) hwhole with
    hyear | ⟨mid, hmid, htail⟩
  · exact absurd (Or.inr hyear) (hgoes 4 (by decide))
  · have hday :=
      drop_of_mem_dayPart (hhead 4 (by decide) '-' rfl) (hhead 4 (by decide) 'W' rfl) hmid
    rw [List.drop_drop, List.drop_drop, List.drop_drop] at hday
    -- a month or a day of the year alone would leave digits over
    rcases hday with rfl | rfl | rfl
    · exact absurd htail (hgoes 6 (by decide))
    · exact absurd htail (hgoes 7 (by decide))
    · have hrest : (ds ++ rest).drop (4 + 4) = rest := List.drop_left' hlength
      rw [hrest] at htail
      rcases htail with hmem | rfl
      · exact Or.inr (Or.inr (starts_of_mem_timePart hmem))
      · exact hlast.imp_right Or.inl

end Digits

end InputGuard

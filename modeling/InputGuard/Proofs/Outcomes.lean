import InputGuard.Schema.Validate
import Mathlib.Data.List.Forall2
import Mathlib.Tactic.Common

/-!
# Outcomes

A computation in `Except` succeeds when all its steps do. So the check of an object succeeds when
the checks of its entries and then of the object itself do.
-/

namespace InputGuard

variable {ε α β γ : Type}

lemma bind_eq_ok {x : Except ε α} {f : α → Except ε β} {b : β} :
    x >>= f = .ok b ↔ ∃ a, x = .ok a ∧ f a = .ok b := by
  cases x with
  | error e =>
    constructor
    · intro h
      cases h
    · rintro ⟨a, h, -⟩
      cases h
  | ok a =>
    constructor
    · exact fun h => ⟨a, rfl, h⟩
    · rintro ⟨a', h, hf⟩
      cases h
      exact hf

lemma bind_eq_error {x : Except ε α} {f : α → Except ε β} {e : ε} :
    x >>= f = .error e ↔ x = .error e ∨ ∃ a, x = .ok a ∧ f a = .error e := by
  cases x with
  | error e' =>
    constructor
    · intro h
      cases h
      exact Or.inl rfl
    · rintro (h | ⟨a, h, -⟩)
      · cases h
        rfl
      · cases h
  | ok a =>
    constructor
    · exact fun h => Or.inr ⟨a, rfl, h⟩
    · rintro (h | ⟨a', h, hf⟩)
      · cases h
      · cases h
        exact hf

@[simp] lemma pure_eq_ok {a b : α} : (pure a : Except ε α) = .ok b ↔ a = b := by
  constructor
  · intro h
    cases h
    rfl
  · rintro rfl
    rfl

@[simp] lemma map_eq_ok {x : Except ε α} {f : α → β} {b : β} :
    f <$> x = .ok b ↔ ∃ a, x = .ok a ∧ f a = b := by
  cases x with
  | error e =>
    constructor
    · intro h
      cases h
    · rintro ⟨a, h, -⟩
      cases h
  | ok a =>
    constructor
    · intro h
      cases h
      exact ⟨a, rfl, rfl⟩
    · rintro ⟨a', h, rfl⟩
      cases h
      rfl

@[simp] lemma map_eq_error {x : Except ε α} {f : α → β} {e : ε} :
    f <$> x = .error e ↔ x = .error e := by
  cases x with
  | error e' =>
    constructor
    · intro h
      cases h
      rfl
    · intro h
      cases h
      rfl
  | ok a =>
    constructor
    · intro h
      cases h
    · intro h
      cases h

lemma exists_ok_congr {x : Except ε α} {y : Except ε β} {f : α → γ} {g : β → γ}
    (h : f <$> x = g <$> y) : (∃ a, x = .ok a) ↔ ∃ b, y = .ok b := by
  constructor
  · rintro ⟨a, rfl⟩
    obtain ⟨b, hb, -⟩ := map_eq_ok.mp h.symm
    exact ⟨b, hb⟩
  · rintro ⟨b, rfl⟩
    obtain ⟨a, ha, -⟩ := map_eq_ok.mp h
    exact ⟨a, ha⟩

lemma eq_error_congr {x : Except ε α} {y : Except ε β} {f : α → γ} {g : β → γ}
    (h : f <$> x = g <$> y) (e : ε) : x = .error e ↔ y = .error e := by
  rw [← @map_eq_error _ _ _ x f, h, map_eq_error]

/-- Steps that pass on what they are given do so together. -/
lemma foldlM_eq_self {step : α → β → Except ε α} {items : List β} {a b : α}
    (hstep : ∀ a item b, step a item = .ok b → b = a) (h : items.foldlM step a = .ok b) :
    b = a := by
  induction items generalizing a with
  | nil => exact (pure_eq_ok.mp h).symm
  | cons item rest ih =>
    rw [List.foldlM_cons] at h
    obtain ⟨c, hc, hrest⟩ := bind_eq_ok.mp h
    rw [ih hrest, hstep a item c hc]

/-- Steps that do the same where an invariant holds, and keep it, do the same together. -/
lemma foldlM_congr {step step' : α → β → Except ε α} (holds : α → Prop)
    (hsame : ∀ a item, holds a → step a item = step' a item)
    (hkeep : ∀ a item b, holds a → step' a item = .ok b → holds b) (items : List β) {a : α}
    (h : holds a) : items.foldlM step a = items.foldlM step' a := by
  induction items generalizing a with
  | nil => rfl
  | cons item rest ih =>
    rw [List.foldlM_cons, List.foldlM_cons, hsame a item h]
    cases hitem : step' a item with
    | error e => rfl
    | ok b => exact ih (hkeep a item b h hitem)

lemma foldlM_keeps {step : α → β → Except ε α} {items : List β} (holds : α → Prop)
    (hkeep : ∀ a, ∀ item ∈ items, ∀ b, holds a → step a item = .ok b → holds b) {a b : α}
    (ha : holds a) (h : items.foldlM step a = .ok b) : holds b := by
  induction items generalizing a with
  | nil => exact pure_eq_ok.mp h ▸ ha
  | cons item rest ih =>
    rw [List.foldlM_cons] at h
    obtain ⟨c, hc, hrest⟩ := bind_eq_ok.mp h
    have hkept : holds c := hkeep a item List.mem_cons_self c ha hc
    exact ih (fun a item hi => hkeep a item (List.mem_cons_of_mem _ hi)) hkept hrest

lemma foldlM_flatMap {step : α → β → Except ε α} (f : γ → List β) (items : List γ) (a : α) :
    (items.flatMap f).foldlM step a = items.foldlM (fun a item => (f item).foldlM step a) a := by
  induction items generalizing a with
  | nil => rfl
  | cons item rest ih =>
    rw [List.flatMap_cons, List.foldlM_append, List.foldlM_cons]
    simp only [ih]

lemma mapM_eq_ok {f : α → Except ε β} {items : List α} {results : List β} :
    items.mapM f = .ok results ↔
      List.Forall₂ (fun item result => f item = .ok result) items results := by
  constructor
  · intro h
    induction items generalizing results with
    | nil => exact pure_eq_ok.mp h ▸ List.Forall₂.nil
    | cons item rest ih =>
      rw [List.mapM_cons] at h
      obtain ⟨result, hresult, hrest⟩ := bind_eq_ok.mp h
      obtain ⟨more, hmore, hpure⟩ := bind_eq_ok.mp hrest
      exact pure_eq_ok.mp hpure ▸ List.Forall₂.cons hresult (ih hmore)
  · intro h
    induction h with
    | nil => rfl
    | cons hitem _ ih =>
      rw [List.mapM_cons, hitem, ih]
      rfl

lemma mapM_eq_error {f : α → Except ε β} {before after : List α} {a : α} {e : ε}
    (hbefore : ∀ b ∈ before, ∃ c, f b = .ok c) (ha : f a = .error e) :
    (before ++ a :: after).mapM f = .error e := by
  induction before with
  | nil =>
    rw [List.nil_append, List.mapM_cons, ha]
    rfl
  | cons b rest ih =>
    obtain ⟨⟨c, hc⟩, hrest⟩ := List.forall_mem_cons.mp hbefore
    rw [List.cons_append, List.mapM_cons, hc, ih hrest]
    rfl

lemma exists_mapM_eq_ok {f : α → Except ε β} {items : List α} :
    (∃ results, items.mapM f = .ok results) ↔ ∀ item ∈ items, ∃ result, f item = .ok result := by
  induction items with
  | nil => exact ⟨fun _ => nofun, fun _ => ⟨[], rfl⟩⟩
  | cons item rest ih =>
    rw [List.forall_mem_cons, ← ih, List.mapM_cons]
    constructor
    · rintro ⟨results, h⟩
      obtain ⟨result, hitem, hmore⟩ := bind_eq_ok.mp h
      obtain ⟨more, hrest, -⟩ := bind_eq_ok.mp hmore
      exact ⟨⟨result, hitem⟩, more, hrest⟩
    · rintro ⟨⟨result, hitem⟩, more, hrest⟩
      rw [hitem, hrest]
      exact ⟨result :: more, rfl⟩

/-- The error of the first item that fails is that of all items. -/
lemma mapM_eq_error_iff {f : α → Except ε β} {items : List α} {e : ε} :
    items.mapM f = .error e ↔ ∃ before a after, items = before ++ a :: after ∧
      (∀ b ∈ before, ∃ c, f b = .ok c) ∧ f a = .error e := by
  constructor
  · intro h
    induction items with
    | nil => cases h
    | cons item rest ih =>
      rw [List.mapM_cons] at h
      cases hitem : f item with
      | error e' =>
        rw [hitem] at h
        cases h
        exact ⟨[], item, rest, rfl, nofun, hitem⟩
      | ok c =>
        rw [hitem] at h
        have hrest : rest.mapM f = .error e := by
          cases hrest : rest.mapM f with
          | error e' =>
            rw [hrest] at h
            cases h
            rfl
          | ok results =>
            rw [hrest] at h
            cases h
        obtain ⟨before, a, after, rfl, hbefore, ha⟩ := ih hrest
        exact ⟨item :: before, a, after, rfl, List.forall_mem_cons.mpr ⟨⟨c, hitem⟩, hbefore⟩, ha⟩
  · rintro ⟨before, a, after, rfl, hbefore, ha⟩
    exact mapM_eq_error hbefore ha

lemma orFault_eq_ok {x : Except Fault α} {a : α} : orFault x = .ok a ↔ x = .ok a := by
  cases x <;> simp [orFault]

lemma orFault_eq_error {x : Except Fault α} {r : Refusal} :
    orFault x = .error r ↔ ∃ f, x = .error f ∧ r = .fault f := by
  cases x with
  | ok a => simp [orFault]
  | error f => simp [orFault, eq_comm]

/-- The errors that a computation may end with all satisfy a condition. -/
def FailsOnly (p : ε → Prop) (x : Except ε α) : Prop := ∀ e, x = .error e → p e

namespace FailsOnly

variable {p : ε → Prop}

lemma ok (a : α) : FailsOnly p (.ok a) := fun _ h => nomatch h

lemma pure (a : α) : FailsOnly p (Pure.pure a) := ok a

lemma error {e : ε} (h : p e) : FailsOnly p (.error e : Except ε α) :=
  fun _ he => Except.error.inj he ▸ h

lemma bind {x : Except ε α} {g : α → Except ε β} (hx : FailsOnly p x)
    (hg : ∀ a, x = .ok a → FailsOnly p (g a)) : FailsOnly p (x >>= g) := by
  cases x with
  | ok a => exact hg a rfl
  | error e => exact error (hx e rfl)

lemma map {x : Except ε α} {g : α → β} (hx : FailsOnly p x) : FailsOnly p (g <$> x) := by
  cases x with
  | ok a => exact ok (g a)
  | error e => exact error (hx e rfl)

lemma mapM {g : α → Except ε β} {items : List α} (h : ∀ a ∈ items, FailsOnly p (g a)) :
    FailsOnly p (items.mapM g) := by
  induction items with
  | nil => exact pure []
  | cons a rest ih =>
    rw [List.mapM_cons]
    obtain ⟨ha, hrest⟩ := List.forall_mem_cons.mp h
    exact ha.bind fun b _ => (ih hrest).bind fun bs _ => pure (b :: bs)

lemma foldlM {step : β → α → Except ε β} {items : List α}
    (h : ∀ b, ∀ a ∈ items, FailsOnly p (step b a)) (b : β) :
    FailsOnly p (items.foldlM step b) := by
  induction items generalizing b with
  | nil => exact pure b
  | cons a rest ih =>
    rw [List.foldlM_cons]
    exact (h b a List.mem_cons_self).bind fun c _ =>
      ih (fun b a ha => h b a (List.mem_cons_of_mem _ ha)) c

end FailsOnly

namespace Schema

variable (store : Store) (visit : Visit) (tree : Tree)

/-- The check of one entry of an object. -/
def validateEntry (key : String) (v : Value) : Checked Value :=
  match lookup? key tree with
  | some schema => schema.validate store (visit.down (.key key)) v
  | none =>
    if visit.prefs.allowUnknown then .ok v
    else (visit.down (.key key)).refuse .objectUnknown v []

lemma validateEntries_cons (key : String) (v : Value) (rest : Entries) :
    validateEntries store visit tree ((key, v) :: rest) = (do
      let w ← validateEntry store visit tree key v
      let ws ← validateEntries store visit tree rest
      return (key, w) :: ws) := by
  rw [validateEntries, validateEntry]
  cases lookup? key tree with
  | some schema => rfl
  | none =>
    dsimp only
    split <;> rfl

lemma validateEntries_cons_eq_ok {key : String} {v : Value} {rest entries : Entries} :
    validateEntries store visit tree ((key, v) :: rest) = .ok entries ↔
      ∃ w ws, validateEntry store visit tree key v = .ok w ∧
        validateEntries store visit tree rest = .ok ws ∧ (key, w) :: ws = entries := by
  rw [validateEntries_cons]
  constructor
  · intro h
    obtain ⟨w, hw, hrest⟩ := bind_eq_ok.mp h
    obtain ⟨ws, hws, hpure⟩ := bind_eq_ok.mp hrest
    exact ⟨w, ws, hw, hws, pure_eq_ok.mp hpure⟩
  · rintro ⟨w, ws, hw, hws, rfl⟩
    rw [hw, hws]
    rfl

end Schema

end InputGuard

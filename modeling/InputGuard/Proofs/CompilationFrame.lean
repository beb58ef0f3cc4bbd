import InputGuard.Proofs.Filling

/-!
# What a compilation leaves alone

Whether it succeeds or fails, a compilation only adds to the trees of input types: it drops no tree
and replaces no entry, and in the end the same types are marked as being filled. The one place that
it writes to apart from that is the field of its target, and only if it succeeds. This holds from
any cache, with any types being filled already.
-/

namespace InputGuard

namespace Compiler

/-- One cache comes from another by additions to the trees of input types. -/
structure Extends (before after : Cache) : Prop where
  filling : after.filling = before.filling
  has : ∀ name, before.store.has name = true → after.store.has name = true
  kept : ∀ name key s, lookup? key (before.store.tree name) = some s →
    lookup? key (after.store.tree name) = some s
  others : ∀ name, (∀ type, name ≠ .input type) → after.store.get? name = before.store.get? name

variable {c : Compiler} {cache before after last : Cache} {type : String} {field : String}
  {target : TreeName} {fill : InputType → Cache → Compiled Unit}

namespace Extends

lemma refl (cache : Cache) : Extends cache cache := ⟨rfl, fun _ h => h, fun _ _ _ h => h, fun _ _ => rfl⟩

lemma trans (h : Extends before after) (h' : Extends after last) : Extends before last where
  filling := h'.filling.trans h.filling
  has := fun name hn => h'.has name (h.has name hn)
  kept := fun name key s hs => h'.kept name key s (h.kept name key s hs)
  others := fun name hn => (h'.others name hn).trans (h.others name hn)

lemma reserve (cache : Cache) (type : String) : Extends cache (cache.reserve type) where
  filling := rfl
  has := fun name hn => (Store.has_reserve _ _ name).mpr (Or.inr hn)
  kept := by
    intro name key s hs
    rwa [Cache.reserve, Store.tree_reserve]
  others := by
    intro name hn
    simp only [Cache.reserve, Store.reserve]
    split
    · rfl
    · rw [Store.get?_set, if_neg (Ne.symm (hn type))]

/-- An entry is put where there was none before the compilation that made it. -/
lemma put (h : Extends before after) (s : Schema)
    (hnone : hasKey field (before.store.tree (.input type)) = false) :
    Extends before (after.put (.input type) field s) where
  filling := h.filling
  has := fun name hn => (Store.has_put _ _ name _ _).mpr (Or.inr (h.has name hn))
  kept := by
    intro name key t ht
    rw [Cache.put, Store.lookup?_put, if_neg]
    · exact h.kept name key t ht
    · rintro ⟨rfl, rfl⟩
      rw [hasKey_iff.mpr ⟨t, ht⟩] at hnone
      exact Bool.noConfusion hnone
  others := by
    intro name hn
    rw [Cache.put, Store.put, Store.get?_set, if_neg (Ne.symm (hn type))]
    exact h.others name hn

end Extends

/-- Filling a type that is not being filled extends the cache. -/
def ExtendsBy (fill : InputType → Cache → Compiled Unit) : Prop :=
  ∀ type cache, cache.isFilling type.name = false → Extends cache (fill type cache).2

lemma visitBase_extends (hfill : ExtendsBy fill) (name : String) (cache : Cache) :
    Extends cache (c.visitBase fill name cache).2 := by
  unfold visitBase
  cases c.input? name with
  | none => exact .refl cache
  | some type =>
    dsimp only
    split
    · exact .reserve cache type.name
    · rename_i hidle
      exact (Extends.reserve cache type.name).trans (hfill type _ (by simpa using hidle))

lemma fillFields_extends (hfill : ExtendsBy fill) (type : String) (fields : List InputValue)
    (cache : Cache) : Extends cache (c.fillFields fill type fields cache).2 := by
  induction fields generalizing cache with
  | nil => exact .refl cache
  | cons field rest ih =>
    rw [fillFields]
    by_cases hkey : hasKey field.name (cache.store.tree (.input type)) = true
    · rw [if_pos hkey]
      exact ih cache
    · rw [if_neg hkey, refSchema_eq]
      have hvisit := visitBase_extends (c := c) hfill field.type.base cache
      cases (c.visitBase fill field.type.base cache).1 >>= fun _ =>
          c.freshSchema field.name field.type [] with
      | error e => exact hvisit
      | ok s => exact (hvisit.put s (by simpa using hkey)).trans (ih _)

lemma fillType_extends (c : Compiler) (depth : Nat) : ExtendsBy (c.fillType depth) := by
  induction depth with
  | zero => exact fun _ cache _ => .refl cache
  | succ depth ih =>
    intro type cache hidle
    have hfields := fillFields_extends (c := c) ih type.name type.fields (cache.enter type.name)
    have hstore : (cache.enter type.name).store = (cache.reserve type.name).store :=
      enter_store cache type.name
    have hreserve := Extends.reserve cache type.name
    rw [fillType]
    constructor
    · -- The mark of the type is set for its fields only; the marks of others are not touched.
      simp only [Cache.leave, hfields.filling, enter_filling hidle]
      exact filter_append_self (by simpa [Cache.isFilling] using hidle)
    · exact fun name hn => hfields.has name (hstore ▸ hreserve.has name hn)
    · exact fun name key s hs => hfields.kept name key s (hstore ▸ hreserve.kept name key s hs)
    · exact fun name hn => (hfields.others name hn).trans (hstore ▸ hreserve.others name hn)

/-- Whatever the cache, and whether it succeeds or not, a compilation leaves the same types marked
as being filled, and keeps all trees and their entries, but for the field of its target. A target
that is no tree of an input type is changed by success alone, and then only at this field. -/
theorem compile_frame (c : Compiler) (ref : TypeRef) (arguments : Arguments) (field : String)
    (target : TreeName) (cache : Cache) :
    let (result, after) := c.compile ref arguments field target cache
    after.filling = cache.filling ∧
      (∀ name, cache.store.has name = true → after.store.has name = true) ∧
      (∀ name key s, lookup? key (cache.store.tree name) = some s →
        lookup? key (after.store.tree name) = some s ∨
          (∃ schema, result = .ok schema) ∧ name = target ∧ key = field) ∧
      (∀ schema, result = .ok schema → lookup? field (after.store.tree target) = some schema) ∧
      ((∀ type, target ≠ .input type) →
        (∀ e, result = .error e → after.store.get? target = cache.store.get? target) ∧
        ∀ schema, result = .ok schema →
          after.store.tree target = insertKey field schema (cache.store.tree target)) ∧
      ∀ name, name ≠ target → (∀ type, name ≠ .input type) →
        after.store.get? name = cache.store.get? name := by
  have hvisit : Extends cache (c.visitBase c.fill ref.base cache).2 :=
    visitBase_extends (fillType_extends c _) ref.base cache
  rw [compile_eq]
  generalize (c.visitBase c.fill ref.base cache).2 = visited at hvisit ⊢
  cases (c.visitBase c.fill ref.base cache).1 >>= fun _ => c.freshSchema field ref arguments with
  | error e =>
    refine ⟨hvisit.filling, hvisit.has, fun name key s hs => Or.inl (hvisit.kept name key s hs),
      nofun, fun htarget => ⟨fun _ _ => hvisit.others target htarget, nofun⟩, ?_⟩
    exact fun name _ hn => hvisit.others name hn
  | ok schema =>
    refine ⟨hvisit.filling, ?_, ?_, ?_, ?_, ?_⟩
    · exact fun name hn => (Store.has_put _ _ name _ _).mpr (Or.inr (hvisit.has name hn))
    · intro name key s hs
      by_cases hat : target = name ∧ field = key
      · exact Or.inr ⟨⟨schema, rfl⟩, hat.1.symm, hat.2.symm⟩
      · left
        rw [Cache.put, Store.lookup?_put, if_neg hat]
        exact hvisit.kept name key s hs
    · intro s hs
      rw [Cache.put, Store.lookup?_put, if_pos ⟨rfl, rfl⟩, Except.ok.inj hs]
    · refine fun htarget => ⟨nofun, fun s hs => ?_⟩
      have htree : visited.store.tree target = cache.store.tree target := by
        rw [Store.tree, Store.tree, hvisit.others target htarget]
      rw [Cache.put, Store.tree_put, if_pos rfl, htree, Except.ok.inj hs]
    · intro name hname hn
      rw [Cache.put, Store.put, Store.get?_set, if_neg (Ne.symm hname)]
      exact hvisit.others name hn

end Compiler

end InputGuard

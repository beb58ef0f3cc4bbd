import InputGuard.Guard.Interceptor
import InputGuard.Proofs.Lookup

/-!
# Installed guards

Whatever calls are made, the resolver of a field is replaced by the first call that installs a guard
on that field, and by no other call. Each guard that replaces a resolver has a tree of its own, also
where fields have the same resolver.
-/

namespace InputGuard

/-- The trees that have numbers are numbered below the number of trees, so the next number is free. -/
def Store.Numbered (store : Store) : Prop := ∀ n, store.has (.own n) = true → n < store.size

namespace Store

variable {store : Store}

lemma numbered_empty : empty.Numbered := nofun

lemma Numbered.not_has_unusedName (h : store.Numbered) : store.has store.unusedName = false := by
  rw [← Bool.not_eq_true]
  exact fun hhas => Nat.lt_irrefl _ (h store.size hhas)

lemma Numbered.reserve_unusedName (h : store.Numbered) :
    (store.reserve store.unusedName).Numbered := by
  have hfree := h.not_has_unusedName
  have hsize : (store.reserve store.unusedName).size = store.size + 1 := by
    simp [reserve, set, hfree, size]
  intro n hn
  rw [hsize]
  rcases (store.has_reserve _ _).mp hn with heq | hold
  · exact Nat.lt_succ_of_le (Nat.le_of_eq (TreeName.own.inj heq).symm)
  · exact Nat.lt_succ_of_lt (h n hold)

end Store

namespace Interceptor

variable {ρ : Type} {s : Interceptor ρ} {call : GuardCall ρ} {calls more : List (GuardCall ρ)}
  {owner name owner' name' : String} {f : ServiceField ρ} {tree : TreeName}

lemma guard_of_isGuarded {resolver : Resolver ρ} (h : resolver.isGuarded = true) :
    resolver.guard tree = resolver := by
  cases resolver with
  | plain handler => cases h
  | guarded handler other => rfl

lemma field?_wrap (s : Interceptor ρ) (resolver : Resolver ρ) (owner name : String) :
    (s.wrap resolver).2.field? owner name = s.field? owner name := by
  unfold wrap
  split <;> rfl

lemma field?_replace (s : Interceptor ρ) (resolver : Resolver ρ) :
    (s.replace owner name resolver).field? owner' name' =
      (s.field? owner' name').map fun f =>
        if f.owner = owner ∧ f.name = name then { f with resolver } else f := by
  unfold replace field?
  rw [List.find?_map]
  have hkey : (fun f : ServiceField ρ => f.owner == owner' && f.name == name') ∘ (fun f =>
      if f.owner = owner ∧ f.name = name then { f with resolver } else f) =
        fun f => f.owner == owner' && f.name == name' := by
    funext f
    dsimp only [Function.comp]
    split <;> rfl
  rw [hkey]

lemma key_of_field? (h : s.field? owner name = some f) : f.owner = owner ∧ f.name = name := by
  simpa using List.find?_some h

/-- The guarded resolver of a field; if it is new, its tree has a name that no other tree has. -/
lemma install_fst (s : Interceptor ρ) (owner name : String) :
    (s.install owner name).1 =
      (s.field? owner name).map fun f => f.resolver.guard s.store.unusedName := by
  unfold install
  cases s.field? owner name with
  | none => rfl
  | some f =>
    simp only [wrap, Option.map_some]
    by_cases hg : f.resolver.isGuarded = true
    · simp only [hg, if_true, guard_of_isGuarded hg]
    · simp only [hg, if_false, Bool.false_eq_true]

/-- A field that is guarded, or that does not exist, is left alone. -/
lemma install_snd_of_guarded (h : ∀ f, s.field? owner name = some f → f.resolver.isGuarded = true) :
    (s.install owner name).2 = s := by
  unfold install
  cases hf : s.field? owner name with
  | none => rfl
  | some f => simp only [wrap, h f hf, if_true]

lemma install_snd_of_plain (hf : s.field? owner name = some f)
    (hp : f.resolver.isGuarded = false) :
    (s.install owner name).2 =
      replace { s with store := s.store.reserve s.store.unusedName } owner name
        (f.resolver.guard s.store.unusedName) := by
  unfold install
  rw [hf]
  simp only [wrap, hp, if_false, Bool.false_eq_true]

lemma field?_install (hf : s.field? owner name = some f) :
    (s.install owner name).2.field? owner name =
      some { f with resolver := f.resolver.guard s.store.unusedName } := by
  by_cases hg : f.resolver.isGuarded = true
  · have hall : ∀ g, s.field? owner name = some g → g.resolver.isGuarded = true := by
      intro g hgf
      rw [← Option.some.inj (hf.symm.trans hgf)]
      exact hg
    rw [install_snd_of_guarded hall, hf, guard_of_isGuarded hg]
  · have hplain : f.resolver.isGuarded = false := by simpa using hg
    have hfield : field? { s with store := s.store.reserve s.store.unusedName } owner name = some f :=
      hf
    rw [install_snd_of_plain hf hplain, field?_replace, hfield, Option.map_some,
      if_pos (key_of_field? hf)]

lemma field?_install_of_ne (hne : ¬(owner' = owner ∧ name' = name)) :
    (s.install owner name).2.field? owner' name' = s.field? owner' name' := by
  by_cases hplain : ∃ f, s.field? owner name = some f ∧ f.resolver.isGuarded = false
  · obtain ⟨f, hf, hp⟩ := hplain
    rw [install_snd_of_plain hf hp, field?_replace]
    refine (Option.map_congr fun g hg => ?_).trans Option.map_id'
    obtain ⟨rfl, rfl⟩ := key_of_field? hg
    exact if_neg hne
  · rw [install_snd_of_guarded fun f hf => by simpa using fun hp => hplain ⟨f, hf, hp⟩]

lemma after_append (s : Interceptor ρ) (calls more : List (GuardCall ρ)) :
    s.after (calls ++ more) = (s.after calls).after more := List.foldl_append

lemma after_cons (s : Interceptor ρ) (call : GuardCall ρ) (more : List (GuardCall ρ)) :
    s.after (call :: more) = (s.act call).after more := rfl

/-- No call replaces the resolver of a field but those that install a guard on this field. -/
lemma field?_act_of_ne (h : call ≠ .install owner name) :
    (s.act call).field? owner name = s.field? owner name := by
  cases call with
  | wrap resolver => exact field?_wrap s resolver owner name
  | install o n =>
    refine field?_install_of_ne ?_
    rintro ⟨rfl, rfl⟩
    exact h rfl

lemma field?_act_of_guarded (hf : s.field? owner name = some f)
    (hg : f.resolver.isGuarded = true) : (s.act call).field? owner name = some f := by
  by_cases hcall : call = .install owner name
  · subst hcall
    rw [act, field?_install hf, guard_of_isGuarded hg]
  · rw [field?_act_of_ne hcall, hf]

/-- A guard stays on its field, whatever is called. -/
lemma field?_after_of_guarded (hf : s.field? owner name = some f)
    (hg : f.resolver.isGuarded = true) (more : List (GuardCall ρ)) :
    (s.after more).field? owner name = some f := by
  induction more generalizing s with
  | nil => exact hf
  | cons call rest ih => exact ih (field?_act_of_guarded hf hg)

lemma field?_after_of_not_mem (h : .install owner name ∉ calls) :
    (s.after calls).field? owner name = s.field? owner name := by
  induction calls generalizing s with
  | nil => rfl
  | cons call rest ih =>
    obtain ⟨hne, hrest⟩ := not_or.mp (mt List.mem_cons.mpr h)
    rw [after_cons, ih hrest, field?_act_of_ne (Ne.symm hne)]

/-- The first call that installs a guard on a field replaces its resolver. -/
lemma field?_after_of_mem {handler : Handler ρ} (hf : s.field? owner name = some f)
    (hp : f.resolver = .plain handler) (hm : .install owner name ∈ calls) :
    ∃ tree, (s.after calls).field? owner name =
      some { f with resolver := .guarded handler tree } := by
  obtain ⟨before, rest, rfl, hfirst⟩ := List.eq_append_cons_of_mem hm
  refine ⟨(s.after before).store.unusedName, ?_⟩
  rw [after_append, after_cons]
  refine field?_after_of_guarded ?_ rfl rest
  have hbefore : (s.after before).field? owner name = some f := by
    rw [field?_after_of_not_mem hfirst, hf]
  rw [act, field?_install hbefore, hp]
  rfl

/-- The tree of the guard of a field. -/
def tree? (s : Interceptor ρ) (owner name : String) : Option TreeName :=
  (s.field? owner name).bind (·.resolver.tree?)

/-- The trees of the guards have been made, each of them for one field. -/
structure Sound (s : Interceptor ρ) : Prop where
  numbered : s.store.Numbered
  made : ∀ owner name tree, s.tree? owner name = some tree → s.store.has tree = true
  apart : ∀ owner name owner' name' tree, s.tree? owner name = some tree →
    s.tree? owner' name' = some tree → owner' = owner ∧ name' = name

lemma sound_start {fields : List (ServiceField ρ)}
    (h : ∀ f ∈ fields, f.resolver.isGuarded = false) : (start fields).Sound := by
  have hnone : ∀ owner name, (start fields).tree? owner name = none := by
    intro owner name
    unfold tree?
    cases hf : (start fields).field? owner name with
    | none => rfl
    | some f =>
      have hplain := h f (List.mem_of_find?_eq_some hf)
      cases hr : f.resolver with
      | plain handler => simp [hr, Resolver.tree?]
      | guarded handler tree => simp [hr, Resolver.isGuarded] at hplain
  refine ⟨Store.numbered_empty, ?_, ?_⟩
  · intro owner name tree htree
    simp [hnone] at htree
  · intro owner name _ _ tree htree
    simp [hnone] at htree

/-- A further tree, of no field, changes nothing for the others. -/
lemma Sound.reserve (h : s.Sound) :
    Sound { s with store := s.store.reserve s.store.unusedName } where
  numbered := h.numbered.reserve_unusedName
  made := fun owner name tree htree =>
    (s.store.has_reserve _ _).mpr (Or.inr (h.made owner name tree htree))
  apart := h.apart

lemma tree?_install (hf : s.field? owner name = some f) (hp : f.resolver.isGuarded = false)
    (owner' name' : String) :
    (s.install owner name).2.tree? owner' name' =
      if owner' = owner ∧ name' = name then some s.store.unusedName else s.tree? owner' name' := by
  unfold tree?
  split
  · rename_i hat
    obtain ⟨rfl, rfl⟩ := hat
    rw [field?_install hf, Option.bind_some]
    cases hr : f.resolver with
    | plain handler => rfl
    | guarded handler tree => simp [hr, Resolver.isGuarded] at hp
  · rename_i hne
    rw [field?_install_of_ne hne]

/-- The tree of a new guard is that of no other field. -/
lemma Sound.install (h : s.Sound) (hf : s.field? owner name = some f)
    (hp : f.resolver.isGuarded = false) : (s.install owner name).2.Sound := by
  have hstore : (s.install owner name).2.store = s.store.reserve s.store.unusedName := by
    rw [install_snd_of_plain hf hp]
    rfl
  have hnew : ∀ owner name, s.tree? owner name ≠ some s.store.unusedName := by
    intro owner name htree
    have hhas := h.made owner name _ htree
    rw [h.numbered.not_has_unusedName] at hhas
    cases hhas
  constructor
  · rw [hstore]
    exact h.numbered.reserve_unusedName
  · intro o n tree htree
    rw [tree?_install hf hp] at htree
    rw [hstore]
    refine (s.store.has_reserve _ _).mpr ?_
    split at htree
    · exact Or.inl (Option.some.inj htree)
    · exact Or.inr (h.made o n tree htree)
  · intro o n o' n' tree htree htree'
    rw [tree?_install hf hp] at htree htree'
    split at htree <;> split at htree'
    · rename_i hat hat'
      exact ⟨hat'.1.trans hat.1.symm, hat'.2.trans hat.2.symm⟩
    · exact absurd (htree'.trans htree.symm) (hnew o' n')
    · exact absurd (htree.trans htree'.symm) (hnew o n)
    · exact h.apart o n o' n' tree htree htree'

lemma Sound.act (h : s.Sound) (call : GuardCall ρ) : (s.act call).Sound := by
  cases call with
  | wrap resolver =>
    change (s.wrap resolver).2.Sound
    unfold wrap
    split
    · exact h
    · exact h.reserve
  | install owner name =>
    change (s.install owner name).2.Sound
    by_cases hplain : ∃ f, s.field? owner name = some f ∧ f.resolver.isGuarded = false
    · obtain ⟨f, hf, hp⟩ := hplain
      exact h.install hf hp
    · rw [install_snd_of_guarded fun f hf => by simpa using fun hp => hplain ⟨f, hf, hp⟩]
      exact h

lemma Sound.after (h : s.Sound) (calls : List (GuardCall ρ)) : (s.after calls).Sound := by
  induction calls generalizing s with
  | nil => exact h
  | cons call rest ih => exact ih (h.act call)

lemma exists_plain {resolver : Resolver ρ} (h : resolver.isGuarded = false) :
    resolver = .plain resolver.handler := by
  cases resolver with
  | plain handler => rfl
  | guarded handler tree => cases h

/-- A field has its own resolver, or a guard for the same handler. -/
lemma field?_after (hf : s.field? owner name = some f) (hp : f.resolver.isGuarded = false)
    (calls : List (GuardCall ρ)) :
    ∃ g, (s.after calls).field? owner name = some g ∧
      ∀ tree, ∃ tree', { g with resolver := g.resolver.guard tree } =
        { f with resolver := .guarded f.resolver.handler tree' } := by
  by_cases hm : .install owner name ∈ calls
  · obtain ⟨tree', hafter⟩ := field?_after_of_mem hf (exists_plain hp) hm
    exact ⟨_, hafter, fun tree => ⟨tree', rfl⟩⟩
  · refine ⟨f, (field?_after_of_not_mem hm).trans hf, fun tree => ⟨tree, ?_⟩⟩
    rw [exists_plain hp]
    rfl

/-- What becomes of a field under a sequence of calls. Its resolver is replaced once, by the first
call that installs a guard on the field; each of these calls answers the same guard; and the tree of
this guard belongs to no other field. -/
structure GuardedOnce (fields : List (ServiceField ρ)) (calls : List (GuardCall ρ))
    (owner name : String) (f : ServiceField ρ) : Prop where
  untouched : .install owner name ∉ calls → ((start fields).after calls).field? owner name = some f
  kept : .install owner name ∈ calls → ∀ more,
    ((start fields).after (calls ++ more)).field? owner name =
      ((start fields).after calls).field? owner name
  answers : ∃ tree,
    (((start fields).after calls).install owner name).1 =
      some (.guarded f.resolver.handler tree) ∧
    ∀ more, let later := (start fields).after (calls ++ .install owner name :: more)
      later.field? owner name = some { f with resolver := .guarded f.resolver.handler tree } ∧
        (later.install owner name).1 = some (.guarded f.resolver.handler tree)
  apart : ∀ owner' name' tree, ((start fields).after calls).tree? owner name = some tree →
    ((start fields).after calls).tree? owner' name' = some tree → owner' = owner ∧ name' = name

/-- Fields whose resolvers are not guarded are guarded once under any calls. -/
theorem guardedOnce {fields : List (ServiceField ρ)}
    (hplain : ∀ f ∈ fields, f.resolver.isGuarded = false) (calls : List (GuardCall ρ))
    (hf : (start fields).field? owner name = some f) : GuardedOnce fields calls owner name f := by
  have hp : f.resolver.isGuarded = false := hplain f (List.mem_of_find?_eq_some hf)
  constructor
  case untouched =>
    intro hm
    rw [field?_after_of_not_mem hm, hf]
  case kept =>
    intro hm more
    obtain ⟨tree, hafter⟩ := field?_after_of_mem hf (exists_plain hp) hm
    rw [after_append, field?_after_of_guarded hafter rfl, hafter]
  case answers =>
    obtain ⟨g, hg, hguard⟩ := field?_after hf hp calls
    obtain ⟨tree, htree⟩ := hguard ((start fields).after calls).store.unusedName
    have hresolver : g.resolver.guard ((start fields).after calls).store.unusedName =
        .guarded f.resolver.handler tree := congrArg ServiceField.resolver htree
    refine ⟨tree, by rw [install_fst, hg, Option.map_some, hresolver], fun more => ?_⟩
    have hlater : ((start fields).after (calls ++ .install owner name :: more)).field? owner name =
        some { f with resolver := .guarded f.resolver.handler tree } := by
      rw [after_append, after_cons]
      refine field?_after_of_guarded ?_ rfl more
      rw [act, field?_install hg, htree]
    refine ⟨hlater, ?_⟩
    rw [install_fst, hlater]
    rfl
  case apart =>
    intro owner' name' tree htree htree'
    exact ((sound_start hplain).after calls).apart owner name owner' name' tree htree htree'

end Interceptor

end InputGuard

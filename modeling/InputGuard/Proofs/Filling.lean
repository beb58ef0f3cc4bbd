import InputGuard.Proofs.Growth

/-!
# Filling the trees of types

What a visit of the cache leaves behind, for the three functions that call each other to fill the
tree of a type. They are run with a bound on the types under way. The bound is never reached: each
type under way is a type of the service, and none is under way twice.
-/

namespace InputGuard

namespace Compiler

variable (c : Compiler)

/-- The number of input types that are not being filled. -/
def idle (cache : Cache) : Nat :=
  (c.graph.inputs.filter fun type => !cache.isFilling type.name).length

/-- What holds of a visit of the cache, whether it succeeds or not. It does succeed where each
visited type has only fields with a schema. -/
structure Fills (visited : InputType → Prop) (cache : Cache) (result : Compiled Unit) : Prop where
  filling : result.2.filling = cache.filling
  grows : c.Grows visited cache.store result.2.store
  settled : result.1 = .ok () → ∀ first, c.Settled first cache → c.Settled first result.2
  succeeds : (∀ type, c.Declares type → visited type → ∀ field ∈ type.fields,
    ∃ s, c.freshSchema field.name field.type [] = .ok s) → result.1 = .ok ()

/-- What is asked of a function that fills a type which is not being filled. -/
def Filler (visited : InputType → Prop) (depth : Nat)
    (fill : InputType → Cache → Compiled Unit) : Prop :=
  ∀ type cache, c.Declares type → visited type → c.Encloses visited cache.store →
    cache.isFilling type.name = false → c.idle cache ≤ depth →
    c.Fills visited cache (fill type cache) ∧
      ((fill type cache).1 = .ok () → (fill type cache).2.Holds type)

variable {c} {visited : InputType → Prop} {depth : Nat} {cache : Cache} {type : InputType}
  {fill : InputType → Cache → Compiled Unit}

lemma idle_congr {cache' : Cache} (h : cache'.filling = cache.filling) :
    c.idle cache' = c.idle cache := by
  simp only [idle, Cache.isFilling, h]

namespace Fills

lemma refl (cache : Cache) : c.Fills visited cache (.ok (), cache) :=
  ⟨rfl, .refl _ _, fun _ _ h => h, fun _ => rfl⟩

lemma trans {middle : Cache} {result : Compiled Unit} (h : c.Fills visited cache (.ok (), middle))
    (h' : c.Fills visited middle result) : c.Fills visited cache result :=
  ⟨h'.filling.trans h.filling, h.grows.trans h'.grows,
    fun hok first hs => h'.settled hok first (h.settled rfl first hs), h'.succeeds⟩

lemma reserve (hd : c.Declares type) (hv : visited type) :
    c.Fills visited cache (.ok (), cache.reserve type.name) := by
  have hgrows : c.Grows visited cache.store (cache.reserve type.name).store := grows_reserve hd hv
  refine ⟨rfl, hgrows, fun _ first hs => ?_, fun _ => rfl⟩
  exact hs.of_tree_eq hgrows (fun name => Store.tree_reserve _ _ name) fun _ _ hb => Or.inr hb

/-- A visit that ends without the schema that it was made for. -/
lemma unmade {after : Cache} {e : CompileFailure} {field : InputValue}
    (h : c.Fills visited cache (.ok (), after)) (hd : c.Declares type) (hv : visited type)
    (hf : field ∈ type.fields) (hfresh : c.freshSchema field.name field.type [] = .error e) :
    c.Fills visited cache (.error e, after) := by
  refine ⟨h.filling, h.grows, nofun, fun hsound => ?_⟩
  obtain ⟨s, hs⟩ := hsound type hd hv field hf
  cases hfresh.symm.trans hs

/-- After a visit of its type, a field without an entry gets one. -/
lemma put (hw : c.graph.WellNamed) {after : Cache} {field : InputValue} {s : Schema}
    (h : c.Fills visited cache (.ok (), after)) (hd : c.Declares type) (hv : visited type)
    (hf : field ∈ type.fields)
    (hnone : hasKey field.name (cache.store.tree (.input type.name)) = false)
    (hfresh : c.freshSchema field.name field.type [] = .ok s)
    (hleads : ∀ next, c.input? field.type.base = some next →
      after.Holds next ∨ cache.isFilling next.name = true) :
    c.Fills visited cache (.ok (), after.put (.input type.name) field.name s) := by
  have hgrows : c.Grows visited cache.store after.store := h.grows
  have hfilling : after.filling = cache.filling := h.filling
  -- On a cycle the visit may come back to this type and put the entry in first. It is then the same
  -- schema, so nothing that was there is replaced.
  have hput : c.Grows visited after.store (after.put (.input type.name) field.name s).store :=
    grows_put hd hv hf (fun _ => hgrows.entry_eq_fresh hw hd hf hnone hfresh) hfresh
  refine ⟨hfilling, hgrows.trans hput, fun _ first hs => ?_, fun _ => rfl⟩
  refine (h.settled rfl first hs).put ?_
  intro other ho hname f hfo hkey next hnext
  obtain rfl := hd.eq_of_name ho (TreeName.input.inj hname)
  obtain rfl := hd.field_eq hw hf hfo hkey.symm
  rcases hleads next hnext with hh | hb
  · exact Or.inl hh
  · right
    rwa [Cache.isFilling, hfilling]

end Fills

lemma visitBase_fills (hfill : c.Filler visited depth fill) (name : String)
    (hv : ∀ next, c.input? name = some next → visited next)
    (he : c.Encloses visited cache.store) (hdepth : c.idle cache ≤ depth) :
    c.Fills visited cache (c.visitBase fill name cache) ∧
      ((c.visitBase fill name cache).1 = .ok () → ∀ next, c.input? name = some next →
        (c.visitBase fill name cache).2.Holds next ∨ cache.isFilling next.name = true) := by
  unfold visitBase
  cases hname : c.input? name with
  | none => exact ⟨.refl cache, fun _ next hnext => nomatch hnext⟩
  | some next =>
    have hd := declares_of_input? hname
    have hreserve : c.Fills visited cache (.ok (), cache.reserve next.name) :=
      .reserve hd (hv next hname)
    dsimp only
    split
    · rename_i hbusy
      refine ⟨hreserve, fun _ other hother => ?_⟩
      obtain rfl := Option.some.inj hother
      exact Or.inr hbusy
    · rename_i hidle
      obtain ⟨hfills, hholds⟩ := hfill next (cache.reserve next.name) hd (hv next hname)
        (he.grows hreserve.grows) (by simpa using hidle) hdepth
      refine ⟨hreserve.trans hfills, fun hok other hother => ?_⟩
      obtain rfl := Option.some.inj hother
      exact Or.inl (hholds hok)

lemma fillFields_fills (hw : c.graph.WellNamed) (hfill : c.Filler visited depth fill)
    (hd : c.Declares type) (hv : visited type) (fields : List InputValue)
    (hsub : ∀ field ∈ fields, field ∈ type.fields) (cache : Cache)
    (he : c.Encloses visited cache.store) (hdepth : c.idle cache ≤ depth) :
    c.Fills visited cache (c.fillFields fill type.name fields cache) ∧
      ((c.fillFields fill type.name fields cache).1 = .ok () → ∀ field ∈ fields,
        hasKey field.name
          ((c.fillFields fill type.name fields cache).2.store.tree (.input type.name)) = true) := by
  induction fields generalizing cache with
  | nil => exact ⟨.refl cache, fun _ _ hf => nomatch hf⟩
  | cons field rest ih =>
    have hfield : field ∈ type.fields := hsub field List.mem_cons_self
    have hrest : ∀ f ∈ rest, f ∈ type.fields := fun f hf => hsub f (List.mem_cons_of_mem _ hf)
    rw [fillFields]
    by_cases hkey : hasKey field.name (cache.store.tree (.input type.name)) = true
    · rw [if_pos hkey]
      obtain ⟨hfills, hkeys⟩ := ih hrest cache he hdepth
      refine ⟨hfills, fun hok f hf => ?_⟩
      rcases List.mem_cons.mp hf with rfl | hf
      · exact hfills.grows.hasKey hkey
      · exact hkeys hok f hf
    · rw [if_neg hkey, refSchema_eq]
      have hnone : hasKey field.name (cache.store.tree (.input type.name)) = false := by
        simpa using hkey
      obtain ⟨hbase, hleads⟩ := visitBase_fills hfill field.type.base
        (fun next hnext => he type hd hv field hfield hnone next hnext) he hdepth
      generalize c.visitBase fill field.type.base cache = visit at hbase hleads ⊢
      obtain ⟨outcome, after⟩ := visit
      cases outcome with
      | error e => exact ⟨hbase, nofun⟩
      | ok done =>
        cases hfresh : c.freshSchema field.name field.type [] with
        | error e => exact ⟨hbase.unmade hd hv hfield hfresh, nofun⟩
        | ok s =>
          have hput : c.Fills visited cache (.ok (), after.put (.input type.name) field.name s) :=
            hbase.put hw hd hv hfield hnone hfresh (hleads rfl)
          obtain ⟨hfills, hkeys⟩ := ih hrest (after.put (.input type.name) field.name s)
            (he.grows hput.grows) (le_of_eq_of_le (idle_congr hbase.filling) hdepth)
          refine ⟨hput.trans hfills, fun hok f hf => ?_⟩
          rcases List.mem_cons.mp hf with rfl | hf
          · exact hfills.grows.hasKey ((Store.hasKey_put _ _ _ _ _ _).mpr (Or.inl ⟨rfl, rfl⟩))
          · exact hkeys hok f hf

lemma mem_inputs (hd : c.Declares type) : type ∈ c.graph.inputs :=
  List.mem_filterMap.mpr ⟨.input type, hd.mem, rfl⟩

lemma idle_pos (hd : c.Declares type) (hidle : cache.isFilling type.name = false) :
    0 < c.idle cache :=
  List.length_pos_of_mem (List.mem_filter.mpr ⟨mem_inputs hd, by rw [hidle]; rfl⟩)

lemma enter_store (cache : Cache) (name : String) :
    (cache.enter name).store = cache.store.reserve (.input name) := by
  unfold Cache.enter
  dsimp only
  split <;> rfl

lemma enter_filling (hidle : cache.isFilling type.name = false) :
    (cache.enter type.name).filling = cache.filling ++ [type.name] := by
  unfold Cache.enter
  dsimp only
  rw [if_neg (by simpa [Cache.isFilling, Cache.reserve] using hidle)]
  rfl

lemma isFilling_enter (hidle : cache.isFilling type.name = false) (name : String) :
    (cache.enter type.name).isFilling name = (cache.isFilling name || name == type.name) := by
  simp [Cache.isFilling, enter_filling hidle, List.contains_eq_mem, beq_eq_decide]

lemma isFilling_leave {name other : String} (hne : other ≠ name)
    (h : cache.isFilling other = true) : (cache.leave name).isFilling other = true := by
  simp only [Cache.isFilling, Cache.leave, List.contains_eq_mem, decide_eq_true_iff] at h ⊢
  exact List.mem_filter.mpr ⟨h, by simpa using hne⟩

lemma filter_append_self {names : List String} {name : String} (h : name ∉ names) :
    (names ++ [name]).filter (· != name) = names := by
  rw [List.filter_append, List.filter_eq_self.mpr]
  · simp
  · intro other ho
    rw [bne_iff_ne]
    rintro rfl
    exact h ho

lemma idle_enter (hd : c.Declares type) (hidle : cache.isFilling type.name = false) :
    c.idle (cache.enter type.name) < c.idle cache := by
  have hfilter : (c.graph.inputs.filter fun t => !(cache.enter type.name).isFilling t.name) =
      (c.graph.inputs.filter fun t => !cache.isFilling t.name).filter fun t =>
        !(t.name == type.name) := by
    rw [List.filter_filter]
    refine List.filter_congr fun t _ => ?_
    rw [isFilling_enter hidle, Bool.not_or, Bool.and_comm]
  unfold idle
  rw [hfilter]
  refine List.length_filter_lt_length_iff_exists.mpr ⟨type, ?_, by simp⟩
  exact List.mem_filter.mpr ⟨mem_inputs hd, by rw [hidle]; rfl⟩

/-- Filling with room for all types that are not under way yet. -/
theorem fillType_filler (hw : c.graph.WellNamed) (visited : InputType → Prop) (depth : Nat) :
    c.Filler visited depth (c.fillType depth) := by
  induction depth with
  | zero =>
    intro type cache hd _ _ hidle hdepth
    exact absurd (idle_pos hd hidle) (by omega)
  | succ depth ih =>
    intro type cache hd hv he hidle hdepth
    have henter : c.Grows visited cache.store (cache.enter type.name).store := by
      rw [enter_store]
      exact grows_reserve hd hv
    obtain ⟨hfills, hkeys⟩ := fillFields_fills hw ih hd hv type.fields (fun _ h => h)
      (cache.enter type.name) (he.grows henter)
      (Nat.le_of_lt_succ (Nat.lt_of_lt_of_le (idle_enter hd hidle) hdepth))
    rw [fillType]
    generalize c.fillFields (c.fillType depth) type.name type.fields (cache.enter type.name) =
      result at hfills hkeys ⊢
    obtain ⟨done, after⟩ := result
    have hgrows : c.Grows visited (cache.enter type.name).store after.store := hfills.grows
    have hholds : done = .ok () → (after.leave type.name).Holds type := by
      intro hok
      refine ⟨hgrows.has _ ?_, hkeys hok⟩
      rw [enter_store]
      exact (Store.has_reserve _ _ _).mpr (Or.inl rfl)
    have hleave : (after.leave type.name).filling = cache.filling := by
      have hafter : after.filling = cache.filling ++ [type.name] :=
        hfills.filling.trans (enter_filling hidle)
      simp only [Cache.leave, hafter]
      exact filter_append_self (by simpa [Cache.isFilling] using hidle)
    refine ⟨⟨hleave, henter.trans hgrows, ?_, hfills.succeeds⟩, hholds⟩
    intro hok first hs
    have hentered : c.Settled first (cache.enter type.name) := by
      refine hs.of_tree_eq henter (fun name => ?_) fun next _ hb => Or.inr ?_
      · rw [enter_store, Store.tree_reserve]
      · rw [isFilling_enter hidle, hb, Bool.true_or]
    refine (hfills.settled hok first hentered).of_tree_eq (.refl visited _) (fun _ => rfl) ?_
    intro next hn hb
    -- The type itself is no longer being filled. What was let pass for that reason is complete now.
    by_cases hname : next.name = type.name
    · obtain rfl := hn.eq_of_name hd hname
      exact Or.inl (hholds hok)
    · exact Or.inr (isFilling_leave hname hb)

section Compilations

variable {ref : TypeRef} {arguments : Arguments} {field : String} {target : TreeName}
  {schema : Schema}

lemma compile_eq (ref : TypeRef) (arguments : Arguments) (field : String) (target : TreeName)
    (cache : Cache) :
    c.compile ref arguments field target cache =
      match (c.visitBase c.fill ref.base cache).1 >>= fun _ =>
        c.freshSchema field ref arguments with
      | .ok schema =>
        (.ok schema, (c.visitBase c.fill ref.base cache).2.put target field schema)
      | .error e => (.error e, (c.visitBase c.fill ref.base cache).2) := by
  rw [compile, refSchema_eq]
  cases (c.visitBase c.fill ref.base cache).1 >>= fun _ => c.freshSchema field ref arguments <;> rfl

lemma compile_fst (ref : TypeRef) (arguments : Arguments) (field : String) (target : TreeName)
    (cache : Cache) :
    (c.compile ref arguments field target cache).1 =
      (c.visitBase c.fill ref.base cache).1 >>= fun _ => c.freshSchema field ref arguments := by
  rw [compile_eq]
  cases (c.visitBase c.fill ref.base cache).1 >>= fun _ => c.freshSchema field ref arguments <;> rfl

lemma compile_eq_ok {after : Cache} :
    c.compile ref arguments field target cache = (.ok schema, after) ↔
      (c.visitBase c.fill ref.base cache).1 = .ok () ∧
        c.freshSchema field ref arguments = .ok schema ∧
        (c.visitBase c.fill ref.base cache).2.put target field schema = after := by
  rw [compile_eq]
  cases (c.visitBase c.fill ref.base cache).1 with
  | error e => exact iff_of_false (by rintro ⟨⟩) (by rintro ⟨⟨⟩, _⟩)
  | ok =>
    change (match c.freshSchema field ref arguments with
      | .ok schema => (_, _)
      | .error e => (_, _)) = _ ↔ _
    cases c.freshSchema field ref arguments with
    | error e => simp
    | ok s =>
      simp only [Prod.mk.injEq, Except.ok.injEq, true_and]
      exact and_congr_right fun heq => by rw [heq]

/-- A visit from a cache where no type is being filled. -/
lemma visitBase_fill (hw : c.graph.WellNamed) (hidle : cache.filling = []) {name : String}
    (hv : ∀ next, c.input? name = some next → visited next)
    (he : c.Encloses visited cache.store) :
    c.Fills visited cache (c.visitBase c.fill name cache) ∧
      ((c.visitBase c.fill name cache).1 = .ok () → ∀ next, c.input? name = some next →
        (c.visitBase c.fill name cache).2.Holds next) := by
  have hfill : c.Filler visited c.graph.inputs.length c.fill :=
    fillType_filler hw visited c.graph.inputs.length
  obtain ⟨hfills, hholds⟩ := visitBase_fills hfill name hv he (List.length_filter_le _ _)
  refine ⟨hfills, fun hok next hnext => ?_⟩
  rcases hholds hok next hnext with hh | hb
  · exact hh
  · simp [Cache.isFilling, hidle] at hb

/-- A compilation that succeeds adds the fresh schema to a cache that has grown. -/
theorem compile_ok (hw : c.graph.WellNamed) (hidle : cache.filling = [])
    (hv : ∀ next, c.input? ref.base = some next → visited next)
    (he : c.Encloses visited cache.store)
    (h : (c.compile ref arguments field target cache).1 = .ok schema) :
    ∃ after : Cache,
      (c.compile ref arguments field target cache).2 = after.put target field schema ∧
      c.freshSchema field ref arguments = .ok schema ∧ after.filling = [] ∧
      c.Grows visited cache.store after.store ∧
      (∀ first, c.Settled first cache → c.Settled first after) ∧
      ∀ next, c.input? ref.base = some next → after.Holds next := by
  obtain ⟨hfills, hholds⟩ := visitBase_fill hw hidle hv he
  obtain ⟨hvisit, hfresh, hput⟩ := compile_eq_ok.mp (Prod.ext h rfl)
  exact ⟨_, hput.symm, hfresh, hfills.filling.trans hidle, hfills.grows, hfills.settled hvisit,
    hholds hvisit⟩

/-- A compilation that fails leaves a cache that has grown. -/
theorem compile_error (hw : c.graph.WellNamed) (hidle : cache.filling = [])
    (hv : ∀ next, c.input? ref.base = some next → visited next)
    (he : c.Encloses visited cache.store) {e : CompileFailure}
    (h : (c.compile ref arguments field target cache).1 = .error e) :
    (c.compile ref arguments field target cache).2.filling = [] ∧
      c.Grows visited cache.store (c.compile ref arguments field target cache).2.store := by
  obtain ⟨hfills, _⟩ := visitBase_fill hw hidle hv he
  rw [compile_eq] at h ⊢
  cases houtcome : (c.visitBase c.fill ref.base cache).1 >>= fun _ =>
      c.freshSchema field ref arguments with
  | error e => exact ⟨hfills.filling.trans hidle, hfills.grows⟩
  | ok s =>
    rw [houtcome] at h
    cases h

/-- A compilation succeeds where its own schema and those of the fields of all visited types can be
made. -/
theorem compile_succeeds (hw : c.graph.WellNamed) (hidle : cache.filling = [])
    (hv : ∀ next, c.input? ref.base = some next → visited next)
    (he : c.Encloses visited cache.store)
    (hsound : ∀ type, c.Declares type → visited type → ∀ f ∈ type.fields,
      ∃ s, c.freshSchema f.name f.type [] = .ok s)
    (hfresh : c.freshSchema field ref arguments = .ok schema) :
    (c.compile ref arguments field target cache).1 = .ok schema := by
  obtain ⟨hfills, _⟩ := visitBase_fill hw hidle hv he
  rw [compile_eq, hfills.succeeds hsound, hfresh]
  rfl

end Compilations

end Compiler

end InputGuard

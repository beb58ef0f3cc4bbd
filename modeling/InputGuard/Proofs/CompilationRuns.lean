import InputGuard.Proofs.Filling
import Mathlib.Data.List.Induction

/-!
# Runs of compilations

Compilations on one cache, one after the other. If all of them succeed, then what the cache holds in
the end does not depend on their order: each has put its own fresh schema into its place, and what
is in the other places are the fresh schemas of the fields of all types that the compilations have
reached.
-/

namespace InputGuard

/-- The compilation of a type into a tree. -/
structure CompileCall where
  type : TypeRef
  arguments : Arguments
  field : String
  target : TreeName

/-- The cache with the tree that a compilation puts its schema into. -/
def Cache.withTarget (cache : Cache) (call : CompileCall) : Cache :=
  { cache with store := cache.store.reserve call.target }

namespace Compiler

variable (c : Compiler)

/-- A compilation into a tree that exists. -/
def perform (cache : Cache) (call : CompileCall) : Compiled Schema :=
  c.compile call.type call.arguments call.field call.target (cache.withTarget call)

/-- The cache after compilations in turn, whether they succeed or not. -/
def after (calls : List CompileCall) : Cache :=
  calls.foldl (fun cache call => (c.perform cache call).2) .empty

/-- A compilation in a run, which ends with the first one that fails. -/
def step (cache : Cache) (call : CompileCall) : Except CompileFailure Cache :=
  match c.perform cache call with
  | (.ok _, after) => .ok after
  | (.error e, _) => .error e

/-- The cache after compilations in turn, if they all succeed. -/
def run (calls : List CompileCall) : Except CompileFailure Cache := calls.foldlM c.step .empty

/-- Between two types there is a field without an entry. -/
def LeadsLacking (store : Store) (type next : InputType) : Prop :=
  ∃ field ∈ type.fields, hasKey field.name (store.tree (.input type.name)) = false ∧
    c.input? field.type.base = some next

/-- A type that can be reached through fields without an entry. -/
def Lacking (store : Store) (ref : TypeRef) (type : InputType) : Prop :=
  ∃ root, c.input? ref.base = some root ∧ Relation.ReflTransGen (c.LeadsLacking store) root type

/-- A compilation into the tree of an input type is one of a field's own type. -/
def Fits (call : CompileCall) : Prop :=
  ∀ type, c.Declares type → call.target = .input type.name →
    ∀ field ∈ type.fields, field.name = call.field → field.type = call.type

/-- What a compilation that succeeds has added before it puts its own schema into its place. -/
structure Adds (call : CompileCall) (before after : Cache) (schema : Schema) : Prop where
  fresh : c.freshSchema call.field call.type call.arguments = .ok schema
  filling : after.filling = []
  grows : c.Grows (c.Lacking before.store call.type) (before.store.reserve call.target) after.store
  settled : ∀ first, c.Settled first before → c.Settled first after
  holds : ∀ next, c.input? call.type.base = some next → after.Holds next

/-- A run, with what each of its compilations adds. -/
inductive Runs : List CompileCall → Cache → Prop
  | nil : Runs [] .empty
  | snoc {calls : List CompileCall} {call : CompileCall} {before after : Cache} {schema : Schema} :
    Runs calls before → c.Adds call before after schema →
    Runs (calls ++ [call]) (after.put call.target call.field schema)

variable {c} {calls : List CompileCall} {call : CompileCall} {schema : Schema} {type : InputType}
  {cache : Cache}

lemma after_append (calls : List CompileCall) (call : CompileCall) :
    c.after (calls ++ [call]) = (c.perform (c.after calls) call).2 := by
  simp [after]

lemma step_eq_ok {cache' : Cache} :
    c.step cache call = .ok cache' ↔
      (∃ schema, (c.perform cache call).1 = .ok schema) ∧ (c.perform cache call).2 = cache' := by
  unfold step
  cases h : c.perform cache call with
  | mk result after => cases result <;> simp

lemma run_append_eq_ok :
    c.run (calls ++ [call]) = .ok cache ↔
      ∃ before, c.run calls = .ok before ∧ c.step before call = .ok cache := by
  rw [run, List.foldlM_append]
  constructor
  · intro h
    obtain ⟨before, hbefore, hrest⟩ := bind_eq_ok.mp h
    rw [List.foldlM_cons] at hrest
    obtain ⟨after, hafter, hpure⟩ := bind_eq_ok.mp hrest
    rw [← pure_eq_ok.mp hpure]
    exact ⟨before, hbefore, hafter⟩
  · rintro ⟨before, hbefore, hstep⟩
    refine bind_eq_ok.mpr ⟨before, hbefore, ?_⟩
    rw [List.foldlM_cons]
    exact bind_eq_ok.mpr ⟨cache, hstep, rfl⟩

/-- A run is what happens without regard to failures, if there are none. -/
lemma after_of_run (h : c.run calls = .ok cache) : c.after calls = cache := by
  induction calls using List.reverseRecOn generalizing cache with
  | nil => exact pure_eq_ok.mp h
  | append_singleton calls call ih =>
    obtain ⟨before, hbefore, hstep⟩ := run_append_eq_ok.mp h
    rw [after_append, ih hbefore]
    exact (step_eq_ok.mp hstep).2

lemma encloses_lacking (store : Store) (ref : TypeRef) :
    c.Encloses (c.Lacking store ref) store := by
  rintro type _ ⟨root, hroot, hpath⟩ field hf hnone next hnext
  exact ⟨root, hroot, hpath.tail ⟨field, hf, hnone, hnext⟩⟩

lemma lacking_reserve (store : Store) (name : TreeName) (ref : TypeRef) :
    c.Lacking (store.reserve name) ref = c.Lacking store ref := by
  have hleads : c.LeadsLacking (store.reserve name) = c.LeadsLacking store := by
    funext type next
    simp [LeadsLacking]
  funext type
  simp [Lacking, hleads]

lemma holds_withTarget (h : cache.Holds type) : (cache.withTarget call).Holds type := by
  refine ⟨(Store.has_reserve _ _ _).mpr (Or.inr h.1), fun f hf => ?_⟩
  simpa [Cache.withTarget] using h.2 f hf

lemma settled_withTarget {first : Store} {cache : Cache} (hs : c.Settled first cache) :
    c.Settled first (cache.withTarget call) := by
  intro type hd field hf hk hk' next hnext
  simp only [Cache.withTarget, Store.tree_reserve] at hk
  rcases hs type hd field hf hk hk' next hnext with hh | hb
  · exact Or.inl (holds_withTarget hh)
  · exact Or.inr hb

lemma perform_ok (hw : c.graph.WellNamed) {cache : Cache} (hidle : cache.filling = [])
    (h : (c.perform cache call).1 = .ok schema) :
    ∃ after : Cache, (c.perform cache call).2 = after.put call.target call.field schema ∧
      c.Adds call cache after schema := by
  have htarget : (cache.withTarget call).filling = [] := hidle
  obtain ⟨after, hafter, hfresh, hfilling, hgrows, hsettled, hholds⟩ := compile_ok hw htarget
    (fun root hroot => ⟨root, hroot, .refl⟩) (encloses_lacking _ call.type) h
  rw [Cache.withTarget, lacking_reserve] at hgrows
  exact ⟨after, hafter, hfresh, hfilling, hgrows,
    fun first hs => hsettled first (settled_withTarget hs), hholds⟩

/-- No type is left as one that is being filled. -/
lemma filling_after (hw : c.graph.WellNamed) (calls : List CompileCall) :
    (c.after calls).filling = [] := by
  induction calls using List.reverseRecOn with
  | nil => rfl
  | append_singleton calls call ih =>
    rw [after_append]
    cases h : (c.perform (c.after calls) call).1 with
    | error e =>
      have htarget : ((c.after calls).withTarget call).filling = [] := ih
      exact (compile_error hw htarget (fun root hroot => ⟨root, hroot, .refl⟩)
        (encloses_lacking _ call.type) h).1
    | ok schema =>
      obtain ⟨after, hafter, hadds⟩ := perform_ok hw ih h
      rw [hafter]
      exact hadds.filling

lemma runs_of_run (hw : c.graph.WellNamed) (h : c.run calls = .ok cache) : c.Runs calls cache := by
  induction calls using List.reverseRecOn generalizing cache with
  | nil =>
    obtain rfl := pure_eq_ok.mp h
    exact .nil
  | append_singleton calls call ih =>
    obtain ⟨before, hbefore, hstep⟩ := run_append_eq_ok.mp h
    obtain ⟨⟨schema, hok⟩, rfl⟩ := step_eq_ok.mp hstep
    have hidle : before.filling = [] := after_of_run hbefore ▸ filling_after hw calls
    obtain ⟨after, hafter, hadds⟩ := perform_ok hw hidle hok
    rw [hafter]
    exact .snoc (ih hbefore) hadds

lemma Runs.filling (h : c.Runs calls cache) : cache.filling = [] := by
  cases h with
  | nil => rfl
  | snoc _ hadds => exact hadds.filling

lemma Adds.settled_put {before after : Cache} (h : c.Adds call before after schema)
    (hs : c.Settled .empty before) (hfits : c.Fits call) :
    c.Settled .empty (after.put call.target call.field schema) := by
  refine (h.settled .empty hs).put ?_
  intro type hd htarget field hf hname next hnext
  rw [hfits type hd htarget field hf hname] at hnext
  exact Or.inl (h.holds next hnext)

/-- A run of compilations that all fit leaves the cache settled. -/
lemma Runs.settled (h : c.Runs calls cache) (hfits : ∀ call ∈ calls, c.Fits call) :
    c.Settled .empty cache := by
  induction h with
  | nil => exact settled_self .empty
  | @snoc calls call _ _ _ _ hadds ih =>
    have hbefore := ih fun made hm => hfits made (List.mem_append_left _ hm)
    exact hadds.settled_put hbefore (hfits call (by simp))

/-- A type that one of the compilations leads to. -/
def Reached (c : Compiler) (calls : List CompileCall) (type : InputType) : Prop :=
  ∃ call ∈ calls, c.Reachable call.type type

/-- No two compilations put their schemas into one place. -/
def Apart (calls : List CompileCall) : Prop :=
  calls.Pairwise fun call other => ¬(call.target = other.target ∧ call.field = other.field)

/-- The schema that compilations leave in a place: that of the one which is for this place, or else
the bare one of a field of a type that they lead to. -/
def Leaves (c : Compiler) (calls : List CompileCall) (name : TreeName) (key : String)
    (s : Schema) : Prop :=
  (∃ call ∈ calls, call.target = name ∧ call.field = key ∧
    c.freshSchema key call.type call.arguments = .ok s) ∨
  ((∀ call ∈ calls, ¬(call.target = name ∧ call.field = key)) ∧
    ∃ type field, c.Reached calls type ∧ name = .input type.name ∧ field ∈ type.fields ∧
      field.name = key ∧ c.freshSchema key field.type [] = .ok s)

lemma Reached.append {type : InputType} (h : c.Reached calls type) :
    c.Reached (calls ++ [call]) type := by
  obtain ⟨made, hm, hr⟩ := h
  exact ⟨made, List.mem_append_left _ hm, hr⟩

lemma Reached.declares (h : c.Reached calls type) : c.Declares type := by
  obtain ⟨_, _, hr⟩ := h
  exact hr.declares

lemma reachable_of_lacking {store : Store} {ref : TypeRef} (h : c.Lacking store ref type) :
    c.Reachable ref type := by
  obtain ⟨root, hroot, hpath⟩ := h
  have hleads : ∀ a b, c.LeadsLacking store a b → c.Leads a b :=
    fun _ _ ⟨f, hf, _, hn⟩ => ⟨f, hf, hn⟩
  exact ⟨root, hroot, Relation.ReflTransGen.mono hleads _ _ hpath⟩

lemma Adds.grows_reachable {before after : Cache} (h : c.Adds call before after schema) :
    c.Grows (c.Reachable call.type) (before.store.reserve call.target) after.store :=
  h.grows.mono fun _ => reachable_of_lacking

/-- The places of a cache hold nothing but what the compilations leave there. -/
lemma Runs.entry (h : c.Runs calls cache) {name : TreeName} {key : String} {s : Schema}
    (hs : lookup? key (cache.store.tree name) = some s) :
    (∃ call ∈ calls, call.target = name ∧ call.field = key ∧
      c.freshSchema key call.type call.arguments = .ok s) ∨
    ∃ type field, c.Reached calls type ∧ name = .input type.name ∧ field ∈ type.fields ∧
      field.name = key ∧ c.freshSchema key field.type [] = .ok s := by
  induction h with
  | nil => cases hs
  | @snoc calls call before after schema _ hadds ih =>
    rw [Cache.put, Store.lookup?_put] at hs
    split at hs
    · rename_i hat
      obtain ⟨rfl, rfl⟩ := hat
      obtain rfl := Option.some.inj hs
      exact Or.inl ⟨call, by simp, rfl, rfl, hadds.fresh⟩
    · rcases hadds.grows_reachable.entry_new _ _ _ hs with hold | ⟨type, field, _, hr, hplace⟩
      · rw [Store.tree_reserve] at hold
        rcases ih hold with ⟨made, hm, hplace⟩ | ⟨type, field, hr, hplace⟩
        · exact Or.inl ⟨made, List.mem_append_left _ hm, hplace⟩
        · exact Or.inr ⟨type, field, hr.append, hplace⟩
      · exact Or.inr ⟨type, field, ⟨call, by simp, hr⟩, hplace⟩

/-- The schema of each compilation is found in its place in the end. -/
lemma Runs.lookup?_call (h : c.Runs calls cache) (hapart : Apart calls) (hmem : call ∈ calls) :
    ∃ s, c.freshSchema call.field call.type call.arguments = .ok s ∧
      lookup? call.field (cache.store.tree call.target) = some s := by
  induction h with
  | nil => cases hmem
  | @snoc calls last before after schema _ hadds ih =>
    obtain ⟨hapart', _, hlast⟩ := List.pairwise_append.mp hapart
    rcases List.mem_append.mp hmem with hm | hm
    · obtain ⟨s, hs, hlook⟩ := ih hapart' hm
      -- The last compilation is for another place, and what grows before keeps its entries.
      refine ⟨s, hs, ?_⟩
      rw [Cache.put, Store.lookup?_put, if_neg]
      · refine hadds.grows.kept _ _ _ ?_
        rwa [Store.tree_reserve]
      · rintro ⟨ht, hf⟩
        exact hlast call hm last (by simp) ⟨ht.symm, hf.symm⟩
    · obtain rfl := List.mem_singleton.mp hm
      exact ⟨schema, hadds.fresh, by rw [Cache.put, Store.lookup?_put, if_pos ⟨rfl, rfl⟩]⟩

/-- The types that the compilations start from are complete in the end. -/
lemma Runs.holds_root (h : c.Runs calls cache) (hmem : call ∈ calls) {root : InputType}
    (hroot : c.input? call.type.base = some root) : cache.Holds root := by
  induction h with
  | nil => cases hmem
  | @snoc calls last before after schema _ hadds ih =>
    refine holds_put schema ?_
    rcases List.mem_append.mp hmem with hm | hm
    · have hbefore : (before.withTarget last).Holds root := holds_withTarget (ih hm)
      exact hadds.grows.holds hbefore
    · obtain rfl := List.mem_singleton.mp hm
      exact hadds.holds root hroot

/-- All types that the compilations lead to are complete in the end. -/
lemma Runs.holds (h : c.Runs calls cache) (hfits : ∀ call ∈ calls, c.Fits call)
    (hr : c.Reached calls type) : cache.Holds type := by
  obtain ⟨call, hmem, hreach⟩ := hr
  exact (h.settled hfits).holds_reachable h.filling (fun root => h.holds_root hmem) hreach

lemma Runs.has_target (h : c.Runs calls cache) (hmem : call ∈ calls) :
    cache.store.has call.target = true := by
  induction h with
  | nil => cases hmem
  | @snoc calls last before after schema _ hadds ih =>
    refine (Store.has_put _ _ _ _ _).mpr ?_
    rcases List.mem_append.mp hmem with hm | hm
    · exact Or.inr (hadds.grows.has _ ((Store.has_reserve _ _ _).mpr (Or.inr (ih hm))))
    · obtain rfl := List.mem_singleton.mp hm
      exact Or.inl rfl

/-- There are no trees but those that the compilations put into, and those of the types that they
lead to. -/
lemma Runs.has_cases (h : c.Runs calls cache) {name : TreeName}
    (hhas : cache.store.has name = true) :
    (∃ call ∈ calls, call.target = name) ∨
      ∃ type, c.Reached calls type ∧ name = .input type.name := by
  induction h with
  | nil => cases hhas
  | @snoc calls call before after schema _ hadds ih =>
    have hcall : call ∈ calls ++ [call] := by simp
    rcases (Store.has_put _ _ _ _ _).mp hhas with ht | hafter
    · exact Or.inl ⟨call, hcall, ht⟩
    · rcases hadds.grows_reachable.has_new _ hafter with hreserved | ⟨type, _, hr, hname⟩
      · rcases (Store.has_reserve _ _ _).mp hreserved with ht | hold
        · exact Or.inl ⟨call, hcall, ht⟩
        · rcases ih hold with ⟨made, hm, ht⟩ | ⟨type, hr, hname⟩
          · exact Or.inl ⟨made, List.mem_append_left _ hm, ht⟩
          · exact Or.inr ⟨type, hr.append, hname⟩
      · exact Or.inr ⟨type, ⟨call, hcall, hr⟩, hname⟩

lemma Runs.keyed (h : c.Runs calls cache) : cache.store.Keyed := by
  induction h with
  | nil => exact Store.keyed_empty
  | snoc _ hadds ih => exact (hadds.grows.keyed (ih.reserve _)).put _ _ _

/-- The trees of a cache are those that the compilations put into, and those of the types that they
lead to. -/
theorem has_of_run (hw : c.graph.WellNamed) (hfits : ∀ call ∈ calls, c.Fits call)
    (h : c.run calls = .ok cache) (name : TreeName) :
    cache.store.has name = true ↔
      (∃ call ∈ calls, call.target = name) ∨
        ∃ type, c.Reached calls type ∧ name = .input type.name := by
  have hruns := runs_of_run hw h
  constructor
  · exact hruns.has_cases
  · rintro (⟨call, hmem, rfl⟩ | ⟨type, hr, rfl⟩)
    · exact hruns.has_target hmem
    · exact (hruns.holds hfits hr).1

/-- In each place there is what the compilations leave there, whatever their order. -/
theorem lookup?_of_run (hw : c.graph.WellNamed) (hfits : ∀ call ∈ calls, c.Fits call)
    (hapart : Apart calls) (h : c.run calls = .ok cache) (name : TreeName) (key : String)
    (s : Schema) :
    lookup? key (cache.store.tree name) = some s ↔ c.Leaves calls name key s := by
  have hruns := runs_of_run hw h
  constructor
  · intro hs
    by_cases hcall : ∃ call ∈ calls, call.target = name ∧ call.field = key
    · obtain ⟨call, hm, rfl, rfl⟩ := hcall
      obtain ⟨t, ht, hlook⟩ := hruns.lookup?_call hapart hm
      obtain rfl := Option.some.inj (hs.symm.trans hlook)
      exact Or.inl ⟨call, hm, rfl, rfl, ht⟩
    · rcases hruns.entry hs with ⟨call, hm, ht, hf, _⟩ | hbare
      · exact absurd ⟨call, hm, ht, hf⟩ hcall
      · exact Or.inr ⟨fun call hm hat => hcall ⟨call, hm, hat⟩, hbare⟩
  · rintro (⟨call, hm, rfl, rfl, hs⟩ | ⟨hnone, type, field, hr, rfl, hf, rfl, hs⟩)
    · obtain ⟨t, ht, hlook⟩ := hruns.lookup?_call hapart hm
      rw [hlook, Except.ok.inj (ht.symm.trans hs)]
    · obtain ⟨t, hlook⟩ := hasKey_iff.mp ((hruns.holds hfits hr).2 field hf)
      rcases hruns.entry hlook with ⟨call, hm, hat⟩ | ⟨other, f, hro, hn, hfo, hk, ht⟩
      · exact absurd ⟨hat.1, hat.2.1⟩ (hnone call hm)
      · obtain rfl := hr.declares.eq_of_name hro.declares (TreeName.input.inj hn)
        obtain rfl := hr.declares.field_eq hw hf hfo hk.symm
        rw [hlook, Except.ok.inj (ht.symm.trans hs)]

/-- A run succeeds if and only if all schemas can be made: those of the compilations, and the bare
ones of the fields of all types that they lead to. -/
theorem run_succeeds_iff (hw : c.graph.WellNamed) (hfits : ∀ call ∈ calls, c.Fits call)
    (hapart : Apart calls) :
    (∃ cache, c.run calls = .ok cache) ↔
      (∀ call ∈ calls, ∃ s, c.freshSchema call.field call.type call.arguments = .ok s) ∧
        ∀ type, c.Reached calls type → ∀ field ∈ type.fields,
          ∃ s, c.freshSchema field.name field.type [] = .ok s := by
  constructor
  · rintro ⟨cache, h⟩
    have hruns := runs_of_run hw h
    constructor
    · intro call hm
      obtain ⟨s, hs, _⟩ := hruns.lookup?_call hapart hm
      exact ⟨s, hs⟩
    · intro type hr field hf
      obtain ⟨s, hs⟩ := hasKey_iff.mp ((hruns.holds hfits hr).2 field hf)
      -- The entry of an annotated field is not bare, but it shows that a bare one can be made.
      rcases hruns.entry hs with
        ⟨call, hm, ht, hfield, hfresh⟩ | ⟨other, f, hro, hn, hfo, hk, hfr⟩
      · rw [← hfits call hm type hr.declares ht field hf hfield.symm] at hfresh
        exact exists_freshSchema_nil hfresh
      · obtain rfl := hr.declares.eq_of_name hro.declares (TreeName.input.inj hn)
        obtain rfl := hr.declares.field_eq hw hf hfo hk.symm
        exact ⟨s, hfr⟩
  · rintro ⟨hcalls, htypes⟩
    induction calls using List.reverseRecOn with
    | nil => exact ⟨.empty, rfl⟩
    | append_singleton calls call ih =>
      obtain ⟨before, hbefore⟩ := ih (fun made hm => hfits made (List.mem_append_left _ hm))
        (List.pairwise_append.mp hapart).1 (fun made hm => hcalls made (List.mem_append_left _ hm))
        (fun type hr => htypes type hr.append)
      obtain ⟨s, hs⟩ := hcalls call (by simp)
      have hidle : before.filling = [] := (runs_of_run hw hbefore).filling
      have htarget : (before.withTarget call).filling = [] := hidle
      have hok : (c.perform before call).1 = .ok s :=
        compile_succeeds hw htarget (fun _ => Reachable.root)
          (fun type _ hr field hf _ next hnext => hr.leads ⟨field, hf, hnext⟩)
          (fun type _ hr => htypes type ⟨call, by simp, hr⟩) hs
      exact ⟨_, run_append_eq_ok.mpr ⟨before, hbefore, step_eq_ok.mpr ⟨⟨s, hok⟩, rfl⟩⟩⟩

end Compiler

end InputGuard

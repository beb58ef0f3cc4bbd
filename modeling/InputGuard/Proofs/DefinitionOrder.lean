import InputGuard.Proofs.AnnotatedServices
import InputGuard.Proofs.Reordering
import InputGuard.Proofs.SameReading

/-!
# The order of definitions

The order in which types, fields and arguments are defined decides which compilation comes first,
and so which entries are made bare and replaced later. In the end it makes no difference: a run
leaves what can be said without it.
-/

namespace InputGuard

namespace TypeGraph.Reordered

variable {graph graph' : TypeGraph} {directive : String}

lemma find? (h : graph.Reordered graph') (hw : graph.WellNamed) {name : String}
    {type : TypeDefinition} (hfind : graph.find? name = some type) :
    ∃ type', graph'.find? name = some type' ∧ type.Reordered type' := by
  obtain ⟨type', ht', hr⟩ := h.exists_mem (List.mem_of_find?_eq_some hfind)
  have hname : type.name = name := by simpa using List.find?_some hfind
  refine ⟨type', ?_, hr⟩
  rw [← hname, hr.name]
  exact (h.wellNamed hw).find?_eq ht'

lemma find?_none (h : graph.Reordered graph') (hw : graph.WellNamed) {name : String}
    (hfind : graph.find? name = none) : graph'.find? name = none := by
  cases hother : graph'.find? name with
  | none => rfl
  | some type' =>
    obtain ⟨type, ht, _⟩ := h.symm.find? (h.wellNamed hw) hother
    cases hfind.symm.trans ht

lemma input? (h : graph.Reordered graph') (hw : graph.WellNamed) {name : String}
    {type : InputType} (ht : Compiler.input? ⟨graph, directive⟩ name = some type) :
    ∃ type', Compiler.input? ⟨graph', directive⟩ name = some type' ∧ type.Reordered type' := by
  obtain ⟨other, ho, hr⟩ := h.find? hw (Compiler.input?_eq_some ht)
  cases hr with
  | @input _ type' hr => exact ⟨type', by simp [Compiler.input?, ho], hr⟩

lemma freshBase (h : graph.Reordered graph') (hw : graph.WellNamed) (field name : String) :
    Compiler.freshBase ⟨graph, directive⟩ field name =
      Compiler.freshBase ⟨graph', directive⟩ field name := by
  unfold Compiler.freshBase
  dsimp only
  cases hfind : graph.find? name with
  | none => rw [h.find?_none hw hfind]
  | some type =>
    obtain ⟨type', ht', hr⟩ := h.find? hw hfind
    rw [ht']
    cases hr with
    | scalar name | enum type | object hr => rfl
    | input hr => simp only [Compiler.typeArguments, hr.name, hr.directives]

lemma freshSchema (h : graph.Reordered graph') (hw : graph.WellNamed) (field : String)
    (ref : TypeRef) (arguments : Arguments) :
    Compiler.freshSchema ⟨graph, directive⟩ field ref arguments =
      Compiler.freshSchema ⟨graph', directive⟩ field ref arguments := by
  induction ref generalizing arguments with
  | nonNull type ih => exact ih arguments
  | list type ih => simp only [Compiler.freshSchema, ih]
  | named name => simp only [Compiler.freshSchema, h.freshBase hw]

lemma leads (h : graph.Reordered graph') (hw : graph.WellNamed) {type type' next : InputType}
    (hr : type.Reordered type') (hl : Compiler.Leads ⟨graph, directive⟩ type next) :
    ∃ next', Compiler.Leads ⟨graph', directive⟩ type' next' ∧ next.Reordered next' := by
  obtain ⟨field, hf, hnext⟩ := hl
  obtain ⟨next', hnext', hrn⟩ := h.input? hw hnext
  exact ⟨next', ⟨field, hr.fields.mem_iff.mp hf, hnext'⟩, hrn⟩

lemma reachable (h : graph.Reordered graph') (hw : graph.WellNamed) {ref : TypeRef}
    {type : InputType} (hr : Compiler.Reachable ⟨graph, directive⟩ ref type) :
    ∃ type', Compiler.Reachable ⟨graph', directive⟩ ref type' ∧ type.Reordered type' := by
  obtain ⟨root, hroot, hpath⟩ := hr
  induction hpath with
  | refl =>
    obtain ⟨root', hroot', hsame⟩ := h.input? hw hroot
    exact ⟨root', .root hroot', hsame⟩
  | tail _ hl ih =>
    obtain ⟨type', hreach, hsame⟩ := ih
    obtain ⟨next', hl', hsame'⟩ := h.leads hw hsame hl
    exact ⟨next', hreach.leads hl', hsame'⟩

lemma mem_annotations (h : graph.Reordered graph') {call : CompileCall}
    (hc : call ∈ graph.annotations directive) : call ∈ graph'.annotations directive := by
  rcases TypeGraph.mem_annotations.mp hc with
    ⟨type, ht, hname, hcall⟩ | ⟨type, ht, hname, field, hf, hcall⟩
  · obtain ⟨type', ht', hr⟩ := h.exists_input ht
    refine TypeGraph.mem_annotations.mpr (Or.inl ⟨type', ht', ?_, ?_⟩)
    · simpa [TypeDefinition.isReserved, TypeDefinition.name, hr.name] using hname
    · rw [← hr.name]
      exact (hr.fields.filterMap _).mem_iff.mp hcall
  · obtain ⟨type', ht', hr⟩ := h.exists_object ht
    obtain ⟨field', hf', hsame⟩ := hr.fields.exists_mem hf
    refine TypeGraph.mem_annotations.mpr (Or.inr ⟨type', ht', ?_, field', hf', ?_⟩)
    · simpa [TypeDefinition.isReserved, TypeDefinition.name, hr.name] using hname
    · rw [← hr.name, ← hsame.name]
      exact (hsame.arguments.filterMap _).mem_iff.mp hcall

lemma reached (h : graph.Reordered graph') (hw : graph.WellNamed) {type : InputType}
    (hr : Compiler.Reached ⟨graph, directive⟩ (graph.annotations directive) type) :
    ∃ type', Compiler.Reached ⟨graph', directive⟩ (graph'.annotations directive) type' ∧
      type.Reordered type' := by
  obtain ⟨call, hm, hreach⟩ := hr
  obtain ⟨type', hreach', hsame⟩ := h.reachable hw hreach
  exact ⟨type', ⟨call, h.mem_annotations hm, hreach'⟩, hsame⟩

lemma leaves (h : graph.Reordered graph') (hw : graph.WellNamed) {name : TreeName} {key : String}
    {s : Schema}
    (hl : Compiler.Leaves ⟨graph, directive⟩ (graph.annotations directive) name key s) :
    Compiler.Leaves ⟨graph', directive⟩ (graph'.annotations directive) name key s := by
  rcases hl with ⟨call, hm, ht, hf, hs⟩ | ⟨hnone, type, field, hr, hname, hf, hkey, hs⟩
  · exact Or.inl ⟨call, h.mem_annotations hm, ht, hf, h.freshSchema hw _ _ _ ▸ hs⟩
  · obtain ⟨type', hr', hsame⟩ := h.reached hw hr
    refine Or.inr ⟨fun call hm => hnone call (h.symm.mem_annotations hm), type', field, hr', ?_,
      hsame.fields.mem_iff.mp hf, hkey, h.freshSchema hw _ _ _ ▸ hs⟩
    rw [hname, hsame.name]

lemma run_succeeds (h : graph.Reordered graph') (hw : graph.WellNamed)
    (hrun : ∃ cache, Compiler.run ⟨graph, directive⟩ (graph.annotations directive) = .ok cache) :
    ∃ cache, Compiler.run ⟨graph', directive⟩ (graph'.annotations directive) = .ok cache := by
  have hw' := h.wellNamed hw
  obtain ⟨hcalls, htypes⟩ := (Compiler.run_succeeds_iff hw hw.fits hw.apart).mp hrun
  refine (Compiler.run_succeeds_iff hw' hw'.fits hw'.apart).mpr ⟨fun call hm => ?_, ?_⟩
  · obtain ⟨s, hs⟩ := hcalls call (h.symm.mem_annotations hm)
    exact ⟨s, h.freshSchema hw _ _ _ ▸ hs⟩
  · intro type hr field hf
    obtain ⟨type', hr', hsame⟩ := h.symm.reached hw' hr
    obtain ⟨s, hs⟩ := htypes type' hr' field (hsame.fields.mem_iff.mp hf)
    exact ⟨s, h.freshSchema hw _ _ _ ▸ hs⟩

lemma has_run (h : graph.Reordered graph') (hw : graph.WellNamed) {cache cache' : Cache}
    (hrun : Compiler.run ⟨graph, directive⟩ (graph.annotations directive) = .ok cache)
    (hrun' : Compiler.run ⟨graph', directive⟩ (graph'.annotations directive) = .ok cache')
    {name : TreeName} (hhas : cache.store.has name = true) : cache'.store.has name = true := by
  have hw' := h.wellNamed hw
  refine (Compiler.has_of_run hw' hw'.fits hrun' name).mpr ?_
  rcases (Compiler.has_of_run hw hw.fits hrun name).mp hhas with ⟨call, hm, ht⟩ | ⟨type, hr, hname⟩
  · exact Or.inl ⟨call, h.mem_annotations hm, ht⟩
  · obtain ⟨type', hr', hsame⟩ := h.reached hw hr
    exact Or.inr ⟨type', hr', by rw [hname, hsame.name]⟩

/-- Runs for the annotations of the same types leave stores that read the same. -/
theorem sameReading (h : graph.Reordered graph') (hw : graph.WellNamed) {cache cache' : Cache}
    (hrun : Compiler.run ⟨graph, directive⟩ (graph.annotations directive) = .ok cache)
    (hrun' : Compiler.run ⟨graph', directive⟩ (graph'.annotations directive) = .ok cache') :
    cache.store.SameReading cache'.store where
  has := fun name => ⟨h.has_run hw hrun hrun', h.symm.has_run (h.wellNamed hw) hrun' hrun⟩
  lookup := by
    have hw' := h.wellNamed hw
    intro name key
    refine Option.ext fun s => ?_
    rw [Compiler.lookup?_of_run hw hw.fits hw.apart hrun,
      Compiler.lookup?_of_run hw' hw'.fits hw'.apart hrun']
    exact ⟨h.leaves hw, h.symm.leaves hw'⟩
  keyed := (Compiler.runs_of_run hw hrun).keyed
  keyed' := (Compiler.runs_of_run (h.wellNamed hw) hrun').keyed

end TypeGraph.Reordered

namespace Service

variable {ρ : Type}

/-- Two services that guard the same fields, hold the same entries with the same descriptions, and
do the same with all arguments. -/
structure Matches (s s' : Service ρ) : Prop where
  fields : ∀ owner field, s.field? owner field = s'.field? owner field
  types : ∀ name, s.cache.contains name = s'.cache.contains name
  keys : ∀ name key,
    hasKey key (s.cache.store.tree name) = hasKey key (s'.cache.store.tree name)
  descriptions : ∀ name key,
    (lookup? key (s.cache.store.tree name)).map (·.describe s.cache.store) =
      (lookup? key (s'.cache.store.tree name)).map (·.describe s'.cache.store)
  calls : ∀ env tree arguments,
    guardArguments s.config s.cache.store env tree arguments =
      guardArguments s'.config s'.cache.store env tree arguments

/-- Two attempts both fail, or they make services that do the same. -/
inductive SameOutcome : Except ServiceFailure (Service ρ) → Except ServiceFailure (Service ρ) → Prop
  | refused (e e' : ServiceFailure) : SameOutcome (.error e) (.error e')
  | made {s s' : Service ρ} : s.Matches s' → SameOutcome (.ok s) (.ok s')

variable {graph graph' : TypeGraph}

lemma offers_reordered (h : graph.Reordered graph') {owner field : String}
    (ho : Offers graph owner field) : Offers graph' owner field := by
  obtain ⟨type, ht, rfl, f, hf, rfl⟩ := ho
  rcases List.mem_append.mp ht with hobject | hfixed
  · obtain ⟨definition, hd, hsome⟩ := List.mem_filterMap.mp hobject
    cases definition with
    | object other =>
      obtain rfl := Option.some.inj hsome
      obtain ⟨type', ht', hr⟩ := h.exists_object hd
      obtain ⟨f', hf', hsame⟩ := hr.fields.exists_mem hf
      refine ⟨type', List.mem_append_left _ ?_, hr.name.symm, f', hf', hsame.name.symm⟩
      exact List.mem_filterMap.mpr ⟨.object type', ht', rfl⟩
    | scalar | enum | input => cases hsome
  · exact ⟨type, List.mem_append_right _ hfixed, rfl, f, hf, rfl⟩

lemma guardAfter_congr {calls calls' : List CompileCall}
    (h : ∀ call, call ∈ calls ↔ call ∈ calls') (f : ServiceField ρ) :
    guardAfter calls f = guardAfter calls' f := by
  have hany : (calls.any fun call => f.treeName == call.target) =
      calls'.any fun call => f.treeName == call.target := by
    refine Bool.eq_iff_iff.mpr ?_
    simp only [List.any_eq_true, h]
  rw [guardAfter, guardAfter, hany]

/-- Fields are found, and guarded, whatever the order. -/
lemma field?_reordered (h : graph.Reordered graph') {s s' : Service ρ} {directive : String}
    {bindings : Bindings ρ}
    (hs : s.fields = (boundFields graph bindings).map (guardAfter (graph.annotations directive)))
    (hs' : s'.fields =
      (boundFields graph' bindings).map (guardAfter (graph'.annotations directive)))
    (owner field : String) : s.field? owner field = s'.field? owner field := by
  have hguard : ∀ f : ServiceField ρ, guardAfter (graph.annotations directive) f =
      guardAfter (graph'.annotations directive) f :=
    guardAfter_congr fun _ => ⟨h.mem_annotations, h.symm.mem_annotations⟩
  refine Option.ext fun f => ?_
  rw [field?_eq_some hs, field?_eq_some hs', hguard]
  exact and_congr_left fun _ => ⟨offers_reordered h, offers_reordered h.symm⟩

/-- The annotations of types in another order are refused together or make services that do the
same. -/
theorem visitTypes_reordered (config : Config) (bindings : Bindings ρ) (hw : graph.WellNamed)
    (h : graph.Reordered graph') :
    SameOutcome (start config graph bindings).visitTypes
      (start config graph' bindings).visitTypes := by
  rw [visitTypes_eq, visitTypes_eq]
  cases hrun : Compiler.run ⟨graph, config.directive⟩ (graph.annotations config.directive) with
  | error e =>
    cases hrun' : Compiler.run ⟨graph', config.directive⟩
        (graph'.annotations config.directive) with
    | error e' => exact .refused _ _
    | ok cache' =>
      obtain ⟨cache, hok⟩ := h.symm.run_succeeds (h.wellNamed hw) ⟨cache', hrun'⟩
      cases hrun.symm.trans hok
  | ok cache =>
    obtain ⟨cache', hrun'⟩ := h.run_succeeds hw ⟨cache, hrun⟩
    rw [hrun']
    have hsame := h.sameReading hw hrun hrun'
    refine .made ⟨?_, ?_, ?_, ?_, ?_⟩
    · exact field?_reordered h rfl rfl
    · exact fun name => Bool.eq_iff_iff.mpr (hsame.has (.input name))
    · intro name key
      rw [hasKey, hasKey, hsame.lookup name key]
    · intro name key
      simp only [hsame.lookup name key, Schema.describe_congr hsame]
    · exact guardArguments_congr hsame config

def orderQuery : ObjectType :=
  ⟨"Query", [⟨"place", [⟨"order", .named "Order", [⟨"validate", []⟩]⟩]⟩]⟩

def orderFields : List InputValue :=
  [⟨"item", .named "Item", []⟩, ⟨"note", .named "String", []⟩]

def itemType : InputType :=
  ⟨"Item", [⟨"code", .named "String", [⟨"validate", [("uppercase", .enum "TRUE")]⟩]⟩,
    ⟨"parent", .named "Order", []⟩], []⟩

/-- The fields of the item are made bare before its annotated field is compiled. -/
def orderGraph : TypeGraph :=
  [.object orderQuery, .input ⟨"Order", orderFields, []⟩, .input itemType]

/-- The annotated field of the item is compiled first. -/
def itemGraph : TypeGraph :=
  [.input itemType, .input ⟨"Order", orderFields.reverse, []⟩, .object orderQuery]

lemma orderGraph_wellNamed : orderGraph.WellNamed := by
  refine ⟨by decide, ?_, ?_, ?_⟩
  · intro type ht
    simp only [orderGraph, List.mem_cons, reduceCtorEq, TypeDefinition.input.injEq,
      List.not_mem_nil, or_false, false_or] at ht
    rcases ht with rfl | rfl <;> decide
  · intro type ht
    simp only [orderGraph, List.mem_cons, reduceCtorEq, TypeDefinition.object.injEq,
      List.not_mem_nil, or_false] at ht
    subst ht
    decide
  · intro type ht
    simp only [orderGraph, List.mem_cons, reduceCtorEq, TypeDefinition.object.injEq,
      List.not_mem_nil, or_false] at ht
    subst ht
    decide

lemma orderGraph_reordered : orderGraph.Reordered itemGraph := by
  have hquery : orderQuery.Reordered orderQuery :=
    ⟨rfl, orderQuery.fields, List.forall₂_same.mpr fun _ _ => ⟨rfl, .refl _⟩, .refl _⟩
  have horder : InputType.Reordered ⟨"Order", orderFields, []⟩ ⟨"Order", orderFields.reverse, []⟩ :=
    ⟨rfl, orderFields.reverse_perm.symm, rfl⟩
  exact ⟨itemGraph.reverse,
    .cons (.object hquery) (.cons (.input horder) (.cons (.input ⟨rfl, .refl _, rfl⟩) .nil)),
    itemGraph.reverse_perm⟩

theorem visitTypes_reordered_order :
    orderGraph.WellNamed ∧ orderGraph.Reordered itemGraph ∧
      ∃ s s' : Service Unit, (start .default orderGraph []).visitTypes = .ok s ∧
        (start .default itemGraph []).visitTypes = .ok s' ∧ s.Matches s' := by
  have hs : ∃ s : Service Unit, (start .default orderGraph []).visitTypes = .ok s := ⟨_, rfl⟩
  have hs' : ∃ s : Service Unit, (start .default itemGraph []).visitTypes = .ok s := ⟨_, rfl⟩
  obtain ⟨s, hs⟩ := hs
  obtain ⟨s', hs'⟩ := hs'
  have h := visitTypes_reordered .default ([] : Bindings Unit) orderGraph_wellNamed
    orderGraph_reordered
  rw [hs, hs'] at h
  cases h with
  | made hm => exact ⟨orderGraph_wellNamed, orderGraph_reordered, s, s', hs, hs', hm⟩

end Service

end InputGuard

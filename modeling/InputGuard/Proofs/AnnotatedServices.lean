import InputGuard.Guard.Service
import InputGuard.Proofs.CompilationRuns

/-!
# Annotated services

To guard a service is one run of compilations, for its annotated arguments and fields in the order
of their definition, and a guard for each field that has one of these arguments.
-/

namespace InputGuard

/-- An argument or a field as a compilation into its tree, if it is annotated. -/
def annotated? (directive : String) (target : TreeName) (input : InputValue) :
    Option CompileCall :=
  (findDirective? directive input.directives).map fun d =>
    ⟨input.type, d.arguments, input.name, target⟩

/-- Whether the name of a type starts with two underscores. -/
def TypeDefinition.isReserved (type : TypeDefinition) : Bool :=
  ['_', '_'].isPrefixOf type.name.toList

/-- The annotated arguments or fields of a type. -/
def TypeDefinition.annotations (directive : String) (type : TypeDefinition) : List CompileCall :=
  if type.isReserved then []
  else match type with
    | .object type => type.fields.flatMap fun field =>
      field.arguments.filterMap (annotated? directive (.arguments type.name field.name))
    | .input type => type.fields.filterMap (annotated? directive (.input type.name))
    | _ => []

def TypeGraph.annotations (graph : TypeGraph) (directive : String) : List CompileCall :=
  graph.flatMap (·.annotations directive)

namespace Service

variable {ρ : Type}

/-- The field with a guard, if a compilation is into the tree of its arguments. -/
def guardFor (target : TreeName) (f : ServiceField ρ) : ServiceField ρ :=
  if f.treeName = target then f.guard else f

/-- The service after one more annotation. -/
def visit (s : Service ρ) (call : CompileCall) : Except ServiceFailure (Service ρ) :=
  match s.compiler.perform s.cache call with
  | (.ok _, cache) => .ok { s with fields := s.fields.map (guardFor call.target), cache }
  | (.error e, _) => .error (.ofCompile e)

lemma compileInto_eq (s : Service ρ) (input : InputValue) (d : Directive) (target : TreeName)
    (fields : List (ServiceField ρ)) :
    compileInto { s with fields, cache := { s.cache with store := s.cache.store.reserve target } }
        input d target =
      match s.compiler.perform s.cache ⟨input.type, d.arguments, input.name, target⟩ with
      | (.ok _, cache) => .ok { s with fields, cache }
      | (.error e, _) => .error (.ofCompile e) := rfl

lemma visitArgument_eq (s : Service ρ) (owner field : String) (input : InputValue) :
    visitArgument owner field s input =
      match annotated? s.config.directive (.arguments owner field) input with
      | some call => s.visit call
      | none => pure s := by
  unfold visitArgument annotated?
  cases findDirective? s.config.directive input.directives with
  | none => rfl
  | some d =>
    have hfields : (s.fields.map fun f =>
        if f.owner = owner ∧ f.name = field then f.guard else f) =
          s.fields.map (guardFor (.arguments owner field)) := by
      refine List.map_congr_left fun f _ => ?_
      simp only [guardFor, ServiceField.treeName, TreeName.arguments.injEq]
    simp only [install, compileInto_eq, hfields]
    rfl

lemma visitInputField_eq (s : Service ρ) (owner : String) (input : InputValue) :
    visitInputField owner s input =
      match annotated? s.config.directive (.input owner) input with
      | some call => s.visit call
      | none => pure s := by
  unfold visitInputField annotated?
  cases findDirective? s.config.directive input.directives with
  | none => rfl
  | some d =>
    have hfields : s.fields.map (guardFor (.input owner)) = s.fields := by
      refine (List.map_congr_left fun f _ => ?_).trans (List.map_id _)
      simp [guardFor, ServiceField.treeName]
    simp only [Option.map_some, visit, hfields]
    rfl

/-- A service with the configuration and the types of another one. -/
def Alike (config : Config) (graph : TypeGraph) (s : Service ρ) : Prop :=
  s.config = config ∧ s.graph = graph

variable {config : Config} {graph : TypeGraph}

lemma alike_visit (s : Service ρ) (call : CompileCall) (t : Service ρ)
    (hs : s.Alike config graph) (h : s.visit call = .ok t) : t.Alike config graph := by
  unfold visit at h
  split at h
  · rw [← Except.ok.inj h]
    exact hs
  · cases h

lemma alike_visits {s t : Service ρ} {calls : List CompileCall} (hs : s.Alike config graph)
    (h : calls.foldlM visit s = .ok t) : t.Alike config graph :=
  foldlM_keeps _ (fun s call _ => alike_visit s call) hs h

lemma visitInputs_eq (target : TreeName) (step : Service ρ → InputValue →
      Except ServiceFailure (Service ρ))
    (hstep : ∀ s input, step s input =
      match annotated? s.config.directive target input with
      | some call => s.visit call
      | none => pure s)
    (inputs : List InputValue) {s : Service ρ} (hs : s.Alike config graph) :
    inputs.foldlM step s =
      (inputs.filterMap (annotated? config.directive target)).foldlM visit s := by
  rw [List.foldlM_filterMap]
  refine foldlM_congr (Alike config graph) (fun s input hs => ?_) (fun s input t hs h => ?_)
    inputs hs
  · rw [hstep, hs.1]
    cases annotated? config.directive target input <;> rfl
  · cases hann : annotated? config.directive target input with
    | none =>
      rw [hann] at h
      exact pure_eq_ok.mp h ▸ hs
    | some call =>
      rw [hann] at h
      exact alike_visit s call t hs h

lemma visitType_eq (type : TypeDefinition) {s : Service ρ} (hs : s.Alike config graph) :
    s.visitType type = (type.annotations config.directive).foldlM visit s := by
  unfold visitType TypeDefinition.annotations TypeDefinition.isReserved
  split
  · rfl
  · cases type with
    | scalar name | enum type => rfl
    | input type => exact visitInputs_eq _ _ (fun s input => visitInputField_eq s _ input) _ hs
    | object type =>
      rw [foldlM_flatMap]
      exact foldlM_congr (Alike config graph)
        (fun s field hs => visitInputs_eq _ _ (fun s input => visitArgument_eq s _ _ input) _ hs)
        (fun s field t hs h => alike_visits hs h) type.fields hs

/-- The field with a guard, if one of the compilations is into the tree of its arguments. -/
def guardAfter (calls : List CompileCall) (f : ServiceField ρ) : ServiceField ρ :=
  if calls.any fun call => f.treeName == call.target then f.guard else f

lemma guardAfter_guardFor (call : CompileCall) (calls : List CompileCall) (f : ServiceField ρ) :
    guardAfter calls (guardFor call.target f) = guardAfter (call :: calls) f := by
  have hguard : f.guard.guard = f.guard := by
    cases f with
    | mk owner name resolver => cases resolver <;> rfl
  by_cases hc : f.treeName = call.target
  · simp only [guardAfter, guardFor, if_pos hc, hguard, List.any_cons, beq_iff_eq.mpr hc,
      Bool.true_or, if_true, ite_self]
  · simp [guardAfter, guardFor, hc]

lemma visits_eq (calls : List CompileCall) (s : Service ρ) :
    calls.foldlM visit s =
      match calls.foldlM s.compiler.step s.cache with
      | .ok cache => .ok { s with fields := s.fields.map (guardAfter calls), cache }
      | .error e => .error (.ofCompile e) := by
  induction calls generalizing s with
  | nil =>
    have hfields : s.fields.map (guardAfter []) = s.fields := List.map_id _
    simp only [List.foldlM_nil, hfields]
    rfl
  | cons call rest ih =>
    rw [List.foldlM_cons, List.foldlM_cons, visit, Compiler.step]
    cases s.compiler.perform s.cache call with
    | mk result after =>
      cases result with
      | error e => rfl
      | ok schema =>
        have hfields : (s.fields.map (guardFor call.target)).map (guardAfter rest) =
            s.fields.map (guardAfter (call :: rest)) := by
          rw [List.map_map]
          exact List.map_congr_left fun f _ => guardAfter_guardFor call rest f
        refine (ih _).trans ?_
        simp only [hfields]
        rfl

/-- Whether an object type of a name has a field of a name. -/
def Offers (graph : TypeGraph) (owner field : String) : Prop :=
  ∃ type ∈ graph.allObjects, type.name = owner ∧ ∃ f ∈ type.fields, f.name = field

lemma guardAfter_owner (calls : List CompileCall) (f : ServiceField ρ) :
    (guardAfter calls f).owner = f.owner := by
  unfold guardAfter
  split <;> rfl

lemma guardAfter_name (calls : List CompileCall) (f : ServiceField ρ) :
    (guardAfter calls f).name = f.name := by
  unfold guardAfter
  split <;> rfl

lemma mem_boundFields {bindings : Bindings ρ} {f : ServiceField ρ} :
    f ∈ boundFields graph bindings ↔
      Offers graph f.owner f.name ∧ f.resolver = boundResolver bindings f.owner f.name := by
  simp only [boundFields, List.mem_flatMap, List.mem_map, Offers]
  constructor
  · rintro ⟨type, ht, field, hf, rfl⟩
    exact ⟨⟨type, ht, rfl, field, hf, rfl⟩, rfl⟩
  · rintro ⟨⟨type, ht, ho, field, hf, hn⟩, hr⟩
    exact ⟨type, ht, field, hf, by rw [ho, hn, ← hr]⟩

section Fields

variable {s : Service ρ} {bindings : Bindings ρ} {calls : List CompileCall}

lemma guardAfter_of_field? (hs : s.fields = (boundFields graph bindings).map (guardAfter calls))
    {owner field : String} {f : ServiceField ρ} (hf : s.field? owner field = some f) :
    Offers graph owner field ∧
      f = guardAfter calls ⟨owner, field, boundResolver bindings owner field⟩ := by
  have hname := List.find?_some hf
  simp only [Bool.and_eq_true, beq_iff_eq] at hname
  have hin := List.mem_of_find?_eq_some hf
  rw [hs] at hin
  obtain ⟨g, hg, rfl⟩ := List.mem_map.mp hin
  rw [guardAfter_owner, guardAfter_name] at hname
  obtain ⟨rfl, rfl⟩ := hname
  obtain ⟨hoffers, hresolver⟩ := mem_boundFields.mp hg
  exact ⟨hoffers, by rw [← hresolver]⟩

/-- A field is found if there is one of its name, and then it is the bound field, guarded if one of
the compilations is into the tree of its arguments. -/
lemma field?_eq_some (hs : s.fields = (boundFields graph bindings).map (guardAfter calls))
    (owner field : String) (f : ServiceField ρ) :
    s.field? owner field = some f ↔
      Offers graph owner field ∧
        f = guardAfter calls ⟨owner, field, boundResolver bindings owner field⟩ := by
  constructor
  · exact guardAfter_of_field? hs
  · rintro ⟨hoffers, rfl⟩
    cases hfind : s.field? owner field with
    | some f => rw [(guardAfter_of_field? hs hfind).2]
    | none =>
      have hin : (⟨owner, field, boundResolver bindings owner field⟩ : ServiceField ρ) ∈
          boundFields graph bindings := mem_boundFields.mpr ⟨hoffers, rfl⟩
      have hnone := List.find?_eq_none.mp hfind _ (hs ▸ List.mem_map_of_mem hin)
      simp [guardAfter_owner, guardAfter_name] at hnone

lemma boundResolver_plain (bindings : Bindings ρ) (type field : String) :
    ∃ handler, boundResolver bindings type field = .plain handler := by
  unfold boundResolver
  split
  · exact ⟨_, rfl⟩
  · exact ⟨_, rfl⟩

/-- A field is guarded if one of the compilations is into the tree of its arguments. -/
lemma field?_guarded (hs : s.fields = (boundFields graph bindings).map (guardAfter calls))
    {owner field : String} (ho : Offers graph owner field) {call : CompileCall}
    (hc : call ∈ calls) (htarget : call.target = .arguments owner field) :
    ∃ handler, s.field? owner field =
      some ⟨owner, field, .guarded handler (.arguments owner field)⟩ := by
  obtain ⟨handler, hbound⟩ := boundResolver_plain bindings owner field
  refine ⟨handler, (field?_eq_some hs _ _ _).mpr ⟨ho, ?_⟩⟩
  have hany : calls.any (fun call => TreeName.arguments owner field == call.target) = true :=
    List.any_eq_true.mpr ⟨call, hc, by rw [htarget, beq_self_eq_true]⟩
  rw [hbound]
  exact (if_pos hany).symm

end Fields

/-- To look at all types is one run of compilations. If it succeeds, the fields with annotated
arguments are guarded, and the cache is the one that the run leaves. -/
theorem visitTypes_eq (config : Config) (graph : TypeGraph) (bindings : Bindings ρ) :
    (start config graph bindings).visitTypes =
      match Compiler.run ⟨graph, config.directive⟩ (graph.annotations config.directive) with
      | .ok cache =>
        .ok ⟨config, graph,
          (boundFields graph bindings).map (guardAfter (graph.annotations config.directive)),
          cache⟩
      | .error e => .error (.ofCompile e) := by
  have hs : (start config graph bindings).Alike config graph := ⟨rfl, rfl⟩
  have htypes : (start config graph bindings).visitTypes =
      (graph.annotations config.directive).foldlM visit (start config graph bindings) := by
    rw [TypeGraph.annotations, foldlM_flatMap]
    exact foldlM_congr (Alike config graph) (fun s type hs => visitType_eq type hs)
      (fun s type t hs h => alike_visits hs h) graph hs
  rw [htypes, visits_eq]
  rfl

end Service

namespace TypeGraph

variable {graph : TypeGraph} {directive : String} {call : CompileCall}

lemma mem_annotated? {directive : String} {target : TreeName} {inputs : List InputValue} :
    call ∈ inputs.filterMap (annotated? directive target) ↔
      ∃ input ∈ inputs, ∃ d, findDirective? directive input.directives = some d ∧
        call = ⟨input.type, d.arguments, input.name, target⟩ := by
  simp only [List.mem_filterMap, annotated?, Option.map_eq_some_iff]
  constructor
  · rintro ⟨input, hi, d, hd, rfl⟩
    exact ⟨input, hi, d, hd, rfl⟩
  · rintro ⟨input, hi, d, hd, rfl⟩
    exact ⟨input, hi, d, hd, rfl⟩

/-- An annotation is that of a field of an input type or that of an argument. -/
lemma mem_annotations :
    call ∈ graph.annotations directive ↔
      (∃ type, .input type ∈ graph ∧ (TypeDefinition.input type).isReserved = false ∧
        call ∈ type.fields.filterMap (annotated? directive (.input type.name))) ∨
      ∃ type, .object type ∈ graph ∧ (TypeDefinition.object type).isReserved = false ∧
        ∃ field ∈ type.fields,
          call ∈ field.arguments.filterMap
            (annotated? directive (.arguments type.name field.name)) := by
  rw [annotations, List.mem_flatMap]
  constructor
  · rintro ⟨type, ht, hcall⟩
    unfold TypeDefinition.annotations at hcall
    split at hcall
    · cases hcall
    · rename_i hreserved
      rw [Bool.not_eq_true] at hreserved
      cases type with
      | scalar name | enum type => cases hcall
      | input type => exact Or.inl ⟨type, ht, hreserved, hcall⟩
      | object type =>
        obtain ⟨field, hf, hcall⟩ := List.mem_flatMap.mp hcall
        exact Or.inr ⟨type, ht, hreserved, field, hf, hcall⟩
  · rintro (⟨type, ht, hreserved, hcall⟩ | ⟨type, ht, hreserved, field, hf, hcall⟩)
    · refine ⟨.input type, ht, ?_⟩
      rw [TypeDefinition.annotations, if_neg (by simp [hreserved])]
      exact hcall
    · refine ⟨.object type, ht, ?_⟩
      rw [TypeDefinition.annotations, if_neg (by simp [hreserved])]
      exact List.mem_flatMap.mpr ⟨field, hf, hcall⟩

namespace WellNamed

lemma find?_eq (hw : graph.WellNamed) {type : TypeDefinition} (h : type ∈ graph) :
    graph.find? type.name = some type :=
  find?_of_mem hw.types h

lemma declares (hw : graph.WellNamed) {type : InputType} (h : .input type ∈ graph) :
    Compiler.Declares ⟨graph, directive⟩ type := by
  have hfind : graph.find? type.name = some (.input type) := hw.find?_eq h
  unfold Compiler.Declares Compiler.input?
  rw [hfind]

/-- Each annotated field is compiled for its own type. -/
lemma fits (hw : graph.WellNamed) :
    ∀ call ∈ graph.annotations directive, Compiler.Fits ⟨graph, directive⟩ call := by
  intro call hc type hd htarget field hf hname
  rcases mem_annotations.mp hc with ⟨other, ho, _, hcall⟩ | ⟨_, _, _, _, _, hcall⟩
  · obtain ⟨input, hi, _, _, rfl⟩ := mem_annotated?.mp hcall
    obtain rfl := hd.eq_of_name (hw.declares ho) (TreeName.input.inj htarget).symm
    rw [hd.field_eq hw hf hi hname]
  · obtain ⟨_, _, _, _, rfl⟩ := mem_annotated?.mp hcall
    cases htarget

lemma apart_inputs (target : TreeName) {inputs : List InputValue}
    (h : (inputs.map (·.name)).Nodup) :
    Compiler.Apart (inputs.filterMap (annotated? directive target)) := by
  refine List.pairwise_filterMap.mpr ((List.pairwise_map.mp h).imp ?_)
  intro input other hne call hcall made hmade
  obtain ⟨_, _, rfl⟩ := Option.map_eq_some_iff.mp hcall
  obtain ⟨_, _, rfl⟩ := Option.map_eq_some_iff.mp hmade
  exact fun hat => hne hat.2

lemma target_of_mem {type : TypeDefinition} (h : call ∈ type.annotations directive) :
    call.target = .input type.name ∨ ∃ field, call.target = .arguments type.name field := by
  unfold TypeDefinition.annotations at h
  split at h
  · cases h
  · cases type with
    | scalar name | enum type => cases h
    | input type =>
      obtain ⟨_, _, _, _, rfl⟩ := mem_annotated?.mp h
      exact Or.inl rfl
    | object type =>
      obtain ⟨field, _, hcall⟩ := List.mem_flatMap.mp h
      obtain ⟨_, _, _, _, rfl⟩ := mem_annotated?.mp hcall
      exact Or.inr ⟨field.name, rfl⟩

lemma apart_type (hw : graph.WellNamed) {type : TypeDefinition} (h : type ∈ graph) :
    Compiler.Apart (type.annotations directive) := by
  unfold TypeDefinition.annotations
  split
  · exact .nil
  · cases type with
    | scalar name | enum type => exact .nil
    | input type => exact apart_inputs _ (hw.inputs type h)
    | object type =>
      refine List.pairwise_flatMap.mpr ⟨fun field hf => ?_, ?_⟩
      · exact apart_inputs _ (hw.arguments type h field hf)
      · refine (List.pairwise_map.mp (hw.objects type h)).imp ?_
        intro field other hne call hcall made hmade
        obtain ⟨_, _, _, _, rfl⟩ := mem_annotated?.mp hcall
        obtain ⟨_, _, _, _, rfl⟩ := mem_annotated?.mp hmade
        exact fun hat => hne (TreeName.arguments.inj hat.1).2

/-- No two annotations are for the same place. -/
lemma apart (hw : graph.WellNamed) : Compiler.Apart (graph.annotations directive) := by
  refine List.pairwise_flatMap.mpr ⟨fun type ht => hw.apart_type ht, ?_⟩
  refine (List.pairwise_map.mp hw.types).imp ?_
  intro type other hne call hcall made hmade hat
  rcases target_of_mem hcall with ht | ⟨f, ht⟩ <;> rcases target_of_mem hmade with ho | ⟨g, ho⟩
  · exact hne (TreeName.input.inj (ht.symm.trans (hat.1.trans ho)))
  · cases ht.symm.trans (hat.1.trans ho)
  · cases ht.symm.trans (hat.1.trans ho)
  · exact hne (TreeName.arguments.inj (ht.symm.trans (hat.1.trans ho))).1

end WellNamed

end TypeGraph

end InputGuard

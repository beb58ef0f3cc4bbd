import InputGuard.Proofs.InstalledGuards
import InputGuard.Proofs.UnmemoizedReading

/-!
# Guarded fields

Which resolvers of a service are guarded, and with what. A guard stands before the resolver that was
bound to the field, and its tree has an entry for each annotated argument of the field. The fields
that are guarded are those on which guards are installed, one call for each annotated argument.
-/

namespace InputGuard

/-- Whether a directive of that name is on an argument. -/
def InputValue.isAnnotated (directive : String) (input : InputValue) : Bool :=
  (findDirective? directive input.directives).isSome

/-- The call that installs the guard which a compilation is for, if it is for an argument. -/
def CompileCall.install? {ρ : Type} (call : CompileCall) : Option (GuardCall ρ) :=
  match call.target with
  | .arguments owner field => some (.install owner field)
  | _ => none

section Annotations

variable {graph : TypeGraph} {directive : String} {type : ObjectType} {field : ObjectField}
  {call : CompileCall} {cache : Cache}

lemma reserved_introspection :
    ∀ type ∈ introspectionTypes, (TypeDefinition.object type).isReserved = true := by decide

/-- The types that the graph does not define itself have reserved names. -/
lemma mem_of_not_reserved (ht : type ∈ graph.allObjects)
    (h : (TypeDefinition.object type).isReserved = false) : .object type ∈ graph := by
  rcases List.mem_append.mp ht with hobject | hintrospection
  · obtain ⟨d, hd, hsome⟩ := List.mem_filterMap.mp hobject
    cases d with
    | object other => rwa [← Option.some.inj hsome]
    | scalar | enum | input => cases hsome
  · rw [reserved_introspection type hintrospection] at h
    cases h

lemma mem_allObjects (ht : .object type ∈ graph) : type ∈ graph.allObjects :=
  List.mem_append_left _ (List.mem_filterMap.mpr ⟨.object type, ht, rfl⟩)

/-- The annotations into the tree of a field are those of the arguments of this field. -/
lemma mem_annotations_arguments (hw : graph.WellNamed) (ht : type ∈ graph.allObjects)
    (hf : field ∈ type.fields) :
    (call ∈ graph.annotations directive ∧ call.target = .arguments type.name field.name) ↔
      (TypeDefinition.object type).isReserved = false ∧
        call ∈ field.arguments.filterMap
          (annotated? directive (.arguments type.name field.name)) := by
  rw [TypeGraph.mem_annotations]
  constructor
  · rintro ⟨⟨other, _, _, hcall⟩ | ⟨other, ho, hseen, g, hg, hcall⟩, htarget⟩
    · obtain ⟨_, _, _, _, rfl⟩ := TypeGraph.mem_annotated?.mp hcall
      cases htarget
    · have hat : other.name = type.name ∧ g.name = field.name := by
        obtain ⟨_, _, _, _, rfl⟩ := TypeGraph.mem_annotated?.mp hcall
        exact TreeName.arguments.inj htarget
      have hseen' : (TypeDefinition.object type).isReserved = false := by
        unfold TypeDefinition.isReserved at hseen ⊢
        rw [TypeDefinition.name, ← hat.1]
        exact hseen
      have hobject := mem_of_not_reserved ht hseen'
      obtain rfl : other = type :=
        TypeDefinition.object.inj (List.inj_on_of_nodup_map hw.types ho hobject hat.1)
      obtain rfl : g = field := List.inj_on_of_nodup_map (hw.objects other ho) hg hf hat.2
      exact ⟨hseen, hcall⟩
  · rintro ⟨hseen, hcall⟩
    refine ⟨Or.inr ⟨type, mem_of_not_reserved ht hseen, hseen, field, hf, hcall⟩, ?_⟩
    obtain ⟨_, _, _, _, rfl⟩ := TypeGraph.mem_annotated?.mp hcall
    rfl

/-- Some compilation is into the tree of a field, for a key of it, if an argument of that name is
annotated. -/
lemma exists_annotation_iff (directive : String) (hw : graph.WellNamed) (ht : type ∈ graph.allObjects)
    (hf : field ∈ type.fields) (p : String → Prop) :
    (∃ call ∈ graph.annotations directive, call.target = .arguments type.name field.name ∧
        p call.field) ↔
      (TypeDefinition.object type).isReserved = false ∧
        ∃ a ∈ field.arguments, a.isAnnotated directive = true ∧ p a.name := by
  constructor
  · rintro ⟨call, hm, htarget, hp⟩
    obtain ⟨hseen, hcall⟩ := (mem_annotations_arguments hw ht hf).mp ⟨hm, htarget⟩
    obtain ⟨a, ha, d, hd, rfl⟩ := TypeGraph.mem_annotated?.mp hcall
    exact ⟨hseen, a, ha, by rw [InputValue.isAnnotated, hd, Option.isSome_some], hp⟩
  · rintro ⟨hseen, a, ha, hann, hp⟩
    obtain ⟨d, hd⟩ := Option.isSome_iff_exists.mp hann
    have hcall := (mem_annotations_arguments hw ht hf).mpr
      ⟨hseen, TypeGraph.mem_annotated?.mpr ⟨a, ha, d, hd, rfl⟩⟩
    exact ⟨_, hcall.1, hcall.2, hp⟩

/-- The keys of the tree of a field are those of the annotations into it. -/
lemma hasKey_arguments_iff (hw : graph.WellNamed)
    (hrun : Compiler.run ⟨graph, directive⟩ (graph.annotations directive) = .ok cache)
    (owner name key : String) :
    hasKey key (cache.store.tree (.arguments owner name)) = true ↔
      ∃ call ∈ graph.annotations directive, call.target = .arguments owner name ∧
        call.field = key := by
  have hlook := Compiler.lookup?_of_run hw hw.fits hw.apart hrun (.arguments owner name) key
  rw [hasKey_iff]
  constructor
  · rintro ⟨s, hs⟩
    rcases (hlook s).mp hs with ⟨call, hm, htarget, hfield, _⟩ | ⟨_, _, _, _, hname, _⟩
    · exact ⟨call, hm, htarget, hfield⟩
    · cases hname
  · rintro ⟨call, hm, htarget, rfl⟩
    have hfresh := ((Compiler.run_succeeds_iff hw hw.fits hw.apart).mp ⟨cache, hrun⟩).1 call hm
    obtain ⟨s, hs⟩ := hfresh
    exact ⟨s, (hlook s).mpr (Or.inl ⟨call, hm, htarget, rfl, hs⟩)⟩

end Annotations

namespace Service

variable {ρ : Type} {config : Config} {graph : TypeGraph} {bindings : Bindings ρ} {s : Service ρ}
  {calls : List CompileCall} {owner name : String}

/-- A service that could be made is the outcome of a run of compilations. -/
lemma run_of_build (h : build config graph bindings = .ok s) :
    let types := Declaration.types config.directive ++ graph
    Compiler.run ⟨types, config.directive⟩ (types.annotations config.directive) = .ok s.cache ∧
      s.fields = (boundFields types bindings).map
        (guardAfter (types.annotations config.directive)) := by
  intro types
  have hvisit := visitTypes_of_build h
  rw [visitTypes_eq] at hvisit
  split at hvisit
  · rename_i cache hrun
    obtain rfl := Except.ok.inj hvisit
    exact ⟨hrun, rfl⟩
  · cases hvisit

/-- The resolver of a field after compilations: a guard for the bound one if one of them is into the
tree of the field, and else the bound one. -/
lemma resolver_guardAfter (calls : List CompileCall) (owner name : String) (handler : Handler ρ) :
    (guardAfter calls ⟨owner, name, .plain handler⟩).resolver =
      if ∃ call ∈ calls, call.target = .arguments owner name
        then .guarded handler (.arguments owner name) else .plain handler := by
  have hany : (calls.any fun call => .arguments owner name == call.target) = true ↔
      ∃ call ∈ calls, call.target = .arguments owner name := by
    rw [List.any_eq_true]
    exact exists_congr fun call => and_congr_right fun _ => beq_iff_eq.trans eq_comm
  unfold guardAfter
  by_cases h : ∃ call ∈ calls, call.target = .arguments owner name
  · rw [if_pos h]
    exact congrArg ServiceField.resolver (if_pos (hany.mpr h))
  · rw [if_neg h]
    exact congrArg ServiceField.resolver (if_neg (mt hany.mp h))

/-- The calls that install the guards of a service, one for each annotated argument. -/
def installs (types : TypeGraph) (directive : String) : List (GuardCall ρ) :=
  (types.annotations directive).filterMap CompileCall.install?

lemma mem_installs {types : TypeGraph} {directive : String} :
    (GuardCall.install owner name : GuardCall ρ) ∈ installs types directive ↔
      ∃ call ∈ types.annotations directive, call.target = .arguments owner name := by
  unfold installs
  rw [List.mem_filterMap]
  refine exists_congr fun call => and_congr_right fun _ => ?_
  unfold CompileCall.install?
  cases call.target <;> simp

/-- In a service that could be made, a field of an object type has the resolver that was bound to it.
It stands behind a guard if the type has no reserved name and an argument of the field is annotated,
and then the keys of the tree of the guard are the names of the annotated arguments. -/
lemma field?_of_build (hw : TypeGraph.WellNamed (Declaration.types config.directive ++ graph))
    (h : build config graph bindings = .ok s) {type : ObjectType}
    (ht : type ∈ (Declaration.types config.directive ++ graph).allObjects) {field : ObjectField}
    (hf : field ∈ type.fields) :
    ∃ f, s.field? type.name field.name = some f ∧
      .plain f.resolver.handler = boundResolver bindings type.name field.name ∧
      (f.resolver.isGuarded = true ↔ (TypeDefinition.object type).isReserved = false ∧
        ∃ a ∈ field.arguments, a.isAnnotated config.directive = true) ∧
      ∀ tree, f.resolver.tree? = some tree → ∀ key,
        hasKey key (s.cache.store.tree tree) = true ↔
          ∃ a ∈ field.arguments, a.isAnnotated config.directive = true ∧ a.name = key := by
  obtain ⟨hrun, hfields⟩ := run_of_build h
  obtain ⟨handler, hbound⟩ := boundResolver_plain bindings type.name field.name
  have hoffers : Offers (Declaration.types config.directive ++ graph) type.name field.name :=
    ⟨type, ht, rfl, field, hf, rfl⟩
  refine ⟨_, (field?_eq_some hfields type.name field.name _).mpr ⟨hoffers, rfl⟩, ?_⟩
  have hguarded := exists_annotation_iff config.directive hw ht hf fun _ => True
  simp only [and_true] at hguarded
  rw [hbound, resolver_guardAfter]
  by_cases hcall : ∃ call ∈ TypeGraph.annotations (Declaration.types config.directive ++ graph)
      config.directive, call.target = .arguments type.name field.name
  · rw [if_pos hcall]
    refine ⟨rfl, iff_of_true rfl (hguarded.mp hcall), fun tree htree key => ?_⟩
    obtain rfl : .arguments type.name field.name = tree := Option.some.inj htree
    rw [hasKey_arguments_iff hw hrun, exists_annotation_iff config.directive hw ht hf (· = key)]
    exact and_iff_right (hguarded.mp hcall).1
  · rw [if_neg hcall]
    exact ⟨rfl, iff_of_false Bool.false_ne_true (mt hguarded.mpr hcall), nofun⟩

/-- A field has the resolver that was bound to it, or a guard for it with a tree of the field's
own. -/
lemma resolver_of_build (h : build config graph bindings = .ok s) {f : ServiceField ρ}
    (hf : f ∈ s.fields) :
    ∃ handler, boundResolver bindings f.owner f.name = .plain handler ∧
      (f.resolver = .guarded handler (.arguments f.owner f.name) ∨ f.resolver = .plain handler) := by
  obtain ⟨_, hfields⟩ := run_of_build h
  rw [hfields] at hf
  obtain ⟨⟨owner, name, resolver⟩, hbound, rfl⟩ := List.mem_map.mp hf
  obtain ⟨handler, hplain⟩ := boundResolver_plain bindings owner name
  obtain rfl : resolver = .plain handler := (mem_boundFields.mp hbound).2.trans hplain
  rw [guardAfter_owner, guardAfter_name, resolver_guardAfter]
  refine ⟨handler, hplain, ?_⟩
  split
  · exact Or.inl rfl
  · exact Or.inr rfl

lemma tree_of_build (h : build config graph bindings = .ok s) {f : ServiceField ρ} {tree : TreeName}
    (hf : f ∈ s.fields) (htree : f.resolver.tree? = some tree) :
    tree = .arguments f.owner f.name := by
  obtain ⟨handler, _, hresolver⟩ := resolver_of_build h hf
  rcases hresolver with hguarded | hplain
  · rw [hguarded] at htree
    exact (Option.some.inj htree).symm
  · rw [hplain] at htree
    cases htree

/-- The guards of a service are those that are installed by one call for each annotated argument, on
the fields with what is bound to them. -/
lemma field?_installs (h : build config graph bindings = .ok s) {f : ServiceField ρ}
    (hf : s.field? owner name = some f) :
    let types := Declaration.types config.directive ++ graph
    ∃ g, ((Interceptor.start (boundFields types bindings)).after
        (installs types config.directive)).field? owner name = some g ∧
      g.resolver.handler = f.resolver.handler ∧ g.resolver.isGuarded = f.resolver.isGuarded := by
  intro types
  obtain ⟨_, hfields⟩ := run_of_build h
  obtain ⟨handler, hbound⟩ := boundResolver_plain bindings owner name
  obtain ⟨hoffers, rfl⟩ := guardAfter_of_field? hfields hf
  have hstart : (Interceptor.start (boundFields types bindings)).field? owner name =
      some ⟨owner, name, .plain handler⟩ := by
    have hnone : (start config types bindings).fields =
        (boundFields types bindings).map (guardAfter []) := (List.map_id _).symm
    have hfield := (field?_eq_some hnone owner name _).mpr ⟨hoffers, rfl⟩
    rw [hbound] at hfield
    exact hfield
  rw [hbound, resolver_guardAfter]
  by_cases hcall : ∃ call ∈ types.annotations config.directive,
      call.target = .arguments owner name
  · rw [if_pos hcall]
    obtain ⟨tree, hafter⟩ :=
      Interceptor.field?_after_of_mem hstart rfl (mem_installs.mpr hcall)
    exact ⟨_, hafter, rfl, rfl⟩
  · rw [if_neg hcall]
    have hafter := Interceptor.field?_after_of_not_mem (s := .start (boundFields types bindings))
      (mt mem_installs.mp hcall)
    exact ⟨_, hafter.trans hstart, rfl, rfl⟩

/-- Which fields of a service are guarded, and with what; and what any calls to guard resolvers do to
fields whose resolvers are not guarded. The types with reserved names are not looked at. -/
theorem guarded_fields (config : Config) (graph : TypeGraph) (bindings : Bindings ρ)
    (hw : TypeGraph.WellNamed (Declaration.types config.directive ++ graph)) {s : Service ρ}
    (h : build config graph bindings = .ok s) :
    let types := Declaration.types config.directive ++ graph
    (∀ type ∈ types.allObjects, ∀ field ∈ type.fields, ∃ f,
      s.field? type.name field.name = some f ∧
        .plain f.resolver.handler = boundResolver bindings type.name field.name ∧
        (f.resolver.isGuarded = true ↔ (TypeDefinition.object type).isReserved = false ∧
          ∃ a ∈ field.arguments, a.isAnnotated config.directive = true) ∧
        ∀ tree, f.resolver.tree? = some tree → ∀ key,
          hasKey key (s.cache.store.tree tree) = true ↔
            ∃ a ∈ field.arguments, a.isAnnotated config.directive = true ∧ a.name = key) ∧
      (∀ f ∈ s.fields, f.resolver.isGuarded = false →
        f.resolver = boundResolver bindings f.owner f.name) ∧
      (∀ f ∈ s.fields, ∀ g ∈ s.fields, ∀ tree, f.resolver.tree? = some tree →
        g.resolver.tree? = some tree → g.owner = f.owner ∧ g.name = f.name) ∧
      (∀ owner name f, s.field? owner name = some f → ∃ g,
        ((Interceptor.start (boundFields types bindings)).after
            (installs types config.directive)).field? owner name = some g ∧
          g.resolver.handler = f.resolver.handler ∧
          g.resolver.isGuarded = f.resolver.isGuarded) ∧
      ∀ fields : List (ServiceField ρ), (∀ f ∈ fields, f.resolver.isGuarded = false) →
        ∀ calls owner name f, (Interceptor.start fields).field? owner name = some f →
          Interceptor.GuardedOnce fields calls owner name f := by
  intro types
  refine ⟨fun type ht field hf => field?_of_build hw h ht hf, ?_, ?_,
    fun owner name f hf => field?_installs h hf,
    fun fields hplain calls owner name f hf => Interceptor.guardedOnce hplain calls hf⟩
  · intro f hf hp
    obtain ⟨handler, hbound, hresolver⟩ := resolver_of_build h hf
    rcases hresolver with hguarded | hplain
    · rw [hguarded] at hp
      cases hp
    · rw [hplain, hbound]
  · intro f hf g hg tree htree htree'
    exact TreeName.arguments.inj ((tree_of_build h hg htree').symm.trans (tree_of_build h hf htree))

def annotatedInput (name type : String) : InputValue := ⟨name, .named type, [⟨"validate", []⟩]⟩

def itemsField : ObjectField :=
  ⟨"items", [annotatedInput "first" "Int", ⟨"order", .named "String", []⟩,
    annotatedInput "text" "String"]⟩

def usersField : ObjectField := ⟨"users", [annotatedInput "first" "Int"]⟩

def versionField : ObjectField := ⟨"version", [⟨"short", .named "Boolean", []⟩]⟩

def catalogueType : ObjectType := ⟨"Query", [itemsField, usersField, versionField]⟩

def catalogue : TypeGraph := [.object catalogueType]

def catalogueBindings : Bindings Unit := [("Query", [("items", ()), ("users", ())])]

lemma catalogue_wellNamed :
    TypeGraph.WellNamed (Declaration.types Config.default.directive ++ catalogue) := by
  refine wellNamed_types _ ⟨by decide, ?_, ?_, ?_⟩ (by decide)
  · intro type ht
    simp [catalogue] at ht
  · intro type ht
    obtain rfl : type = catalogueType := by simpa [catalogue] using ht
    decide
  · intro type ht
    obtain rfl : type = catalogueType := by simpa [catalogue] using ht
    decide

/-- Two fields that are bound to one function get guards with different trees, and the third field
gets none. -/
theorem guarded_fields_catalogue :
    TypeGraph.WellNamed (Declaration.types Config.default.directive ++ catalogue) ∧
      ∃ s, build .default catalogue catalogueBindings = .ok s ∧
        (∃ f, s.field? "Query" "items" = some f ∧ f.resolver.isGuarded = true ∧
          ∀ tree, f.resolver.tree? = some tree → ∀ key,
            hasKey key (s.cache.store.tree tree) = true ↔ key = "first" ∨ key = "text") ∧
        (∃ f, s.field? "Query" "users" = some f ∧ f.resolver.isGuarded = true ∧
          f.resolver.handler = .bound ()) ∧
        ∃ f, s.field? "Query" "version" = some f ∧ f.resolver.isGuarded = false := by
  have hbuild : ∃ s, build .default catalogue catalogueBindings = .ok s := ⟨_, rfl⟩
  obtain ⟨s, hs⟩ := hbuild
  refine ⟨catalogue_wellNamed, s, hs, ?_⟩
  have htype : catalogueType ∈
      (Declaration.types Config.default.directive ++ catalogue).allObjects :=
    mem_allObjects (List.mem_append_right _ List.mem_cons_self)
  have hall := (guarded_fields .default catalogue catalogueBindings catalogue_wellNamed hs).1
    catalogueType htype
  refine ⟨?_, ?_, ?_⟩
  · obtain ⟨f, hf, _, hguarded, hkeys⟩ := hall itemsField (by simp [catalogueType])
    refine ⟨f, hf, hguarded.mpr ⟨by decide, annotatedInput "first" "Int", ?_, rfl⟩, ?_⟩
    · simp [itemsField]
    · intro tree htree key
      refine (hkeys tree htree key).trans (Iff.trans ?_ (or_congr eq_comm eq_comm))
      simp [itemsField, annotatedInput, InputValue.isAnnotated, findDirective?, Config.default]
  · obtain ⟨f, hf, hbound, hguarded, _⟩ := hall usersField (by simp [catalogueType])
    refine ⟨f, hf, hguarded.mpr ⟨by decide, annotatedInput "first" "Int", ?_, rfl⟩, ?_⟩
    · simp [usersField]
    · exact Resolver.plain.inj hbound
  · obtain ⟨f, hf, _, hguarded, _⟩ := hall versionField (by simp [catalogueType])
    refine ⟨f, hf, ?_⟩
    rw [← Bool.not_eq_true, hguarded]
    simp [versionField, InputValue.isAnnotated, findDirective?]

def nodeType : ObjectType := ⟨"__Node", [⟨"find", [annotatedInput "id" "String"]⟩]⟩

def nodeGraph : TypeGraph := [.object ⟨"Query", [⟨"ping", []⟩]⟩, .object nodeType]

lemma nodeGraph_wellNamed :
    TypeGraph.WellNamed (Declaration.types Config.default.directive ++ nodeGraph) := by
  refine wellNamed_types _ ⟨by decide, ?_, ?_, ?_⟩ (by decide)
  · intro type ht
    simp [nodeGraph] at ht
  · intro type ht
    obtain rfl | rfl : type = ⟨"Query", [⟨"ping", []⟩]⟩ ∨ type = nodeType := by
      simpa [nodeGraph] using ht
    · decide
    · decide
  · intro type ht
    obtain rfl | rfl : type = ⟨"Query", [⟨"ping", []⟩]⟩ ∨ type = nodeType := by
      simpa [nodeGraph] using ht
    · decide
    · decide

/-- Without regard to the names of types, it does not hold that the fields with annotated arguments
are guarded. -/
theorem not_guarded_of_annotated :
    ¬∀ (config : Config) (graph : TypeGraph) (bindings : Bindings Unit) (s : Service Unit),
      TypeGraph.WellNamed (Declaration.types config.directive ++ graph) →
      build config graph bindings = .ok s →
      ∀ type, .object type ∈ graph → ∀ field ∈ type.fields, ∃ f,
        s.field? type.name field.name = some f ∧
          (f.resolver.isGuarded = true ↔
            ∃ a ∈ field.arguments, a.isAnnotated config.directive = true) := by
  intro hclaim
  obtain ⟨s, hs⟩ : ∃ s, build .default nodeGraph ([] : Bindings Unit) = .ok s := ⟨_, rfl⟩
  have hnode : .object nodeType ∈ nodeGraph := List.mem_cons_of_mem _ List.mem_cons_self
  obtain ⟨f, hf, hclaimed⟩ := hclaim .default nodeGraph [] s nodeGraph_wellNamed hs nodeType hnode
    ⟨"find", [annotatedInput "id" "String"]⟩ List.mem_cons_self
  obtain ⟨g, hg, _, hguarded, _⟩ := field?_of_build nodeGraph_wellNamed hs
    (mem_allObjects (List.mem_append_right _ hnode)) List.mem_cons_self
  obtain rfl : f = g := Option.some.inj (hf.symm.trans hg)
  have hreserved := (hguarded.mp (hclaimed.mpr ⟨_, List.mem_cons_self, rfl⟩)).1
  exact absurd hreserved (by decide)

end Service

end InputGuard

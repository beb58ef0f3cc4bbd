import InputGuard.Proofs.AnnotatedServices

/-!
# Reading without a cache

A guarded resolver checks its arguments against shared trees, which the compilations of a service
have filled piece by piece. A reading makes all schemas anew while it follows the value: for each
annotated argument, and for each field of each object that it meets. Both have the same outcome.
-/

namespace InputGuard

/-- Why a reading ends: a value is refused, or there is no schema for it. -/
inductive ReadingFailure
  | refused (r : Refusal)
  | unmade (e : CompileFailure)

abbrev Read (α : Type) := Except ReadingFailure α

/-- A check as a part of a reading. -/
def checked {α : Type} (x : Checked α) : Read α := x.mapError .refused

@[simp] lemma checked_ok {α : Type} (a : α) : checked (.ok a) = .ok a := rfl

@[simp] lemma checked_pure {α : Type} (a : α) : checked (pure a) = pure a := rfl

@[simp] lemma checked_bind {α β : Type} (x : Checked α) (f : α → Checked β) :
    checked (x >>= f) = checked x >>= fun a => checked (f a) := by
  cases x <;> rfl

namespace Compiler

section Reading

variable (c : Compiler)

/-- The arguments of the directive on a field; none if it is not annotated. -/
def ownArguments (input : InputValue) : Arguments :=
  ((findDirective? c.directive input.directives).map (·.arguments)).getD []

/-- The schema of a field of an input type or of an annotated argument of a field, made from its own
type and the arguments of its own directive. -/
def declared? (name : TreeName) (key : String) : Option (Except CompileFailure Schema) :=
  match name with
  | .input type => do
    let type ← c.input? type
    let field ← type.fields.find? (·.name == key)
    return c.freshSchema key field.type (c.ownArguments field)
  | .arguments owner name =>
    match c.graph.find? owner with
    | some (.object type) => do
      let field ← type.fields.find? (·.name == name)
      let argument ← field.arguments.find? (·.name == key)
      let d ← findDirective? c.directive argument.directives
      return c.freshSchema key argument.type d.arguments
    | _ => none
  | _ => none

mutual

/-- The value as a schema passes it on, if the schemas of the entries of each object are made when
they are needed. -/
def read (visit : Visit) (schema : Schema) : Value → Read Value
  | .null => .ok .null
  | .list items =>
    let visit := visit.under schema.settings
    match schema.item? with
    | some item => do
      let items ← readItems visit item 0 items
      checked (schema.finish visit (.list items))
    | none => checked (schema.finish visit (.list items))
  | .object entries =>
    let visit := visit.under schema.settings
    match schema.tree? with
    | some name => do
      let entries ← readEntries visit name entries
      checked (schema.finish visit (.object entries))
    | none => checked (schema.finish visit (.object entries))
  | v => checked (schema.finish (visit.under schema.settings) v)

def readItems (visit : Visit) (item : Schema) (i : Nat) : List Value → Read (List Value)
  | [] => .ok []
  | v :: rest => do
    let w ← read (visit.down (.index i)) item v
    let ws ← readItems visit item (i + 1) rest
    return w :: ws

def readEntries (visit : Visit) (name : TreeName) : List (String × Value) → Read Entries
  | [] => .ok []
  | (key, v) :: rest => do
    let below := visit.down (.key key)
    let w ← match c.declared? name key with
      | some (.ok schema) => read below schema v
      | some (.error e) => .error (.unmade e)
      | none =>
        if visit.prefs.allowUnknown then .ok v else checked (below.refuse .objectUnknown v [])
    let ws ← readEntries visit name rest
    return (key, w) :: ws

end

end Reading

variable {c : Compiler} {store : Store} {names : TreeName → Prop}

/-- Some trees of a store hold what is declared for them, and lead only to one another. -/
structure Agrees (c : Compiler) (store : Store) (names : TreeName → Prop) : Prop where
  entries : ∀ name, names name → ∀ key,
    c.declared? name key = (lookup? key (store.tree name)).map .ok
  closed : ∀ name, names name → ∀ key s, lookup? key (store.tree name) = some s →
    ∀ next ∈ s.treeNames, names next

mutual

/-- A check against trees that hold what is declared has the outcome of a reading. -/
theorem read_eq_validate (h : c.Agrees store names) (visit : Visit) (schema : Schema)
    (hs : ∀ name ∈ schema.treeNames, names name) (v : Value) :
    c.read visit schema v = checked (schema.validate store visit v) := by
  match v with
  | .null => rfl
  | .list items =>
    rw [read, Schema.validate]
    cases schema with
    | arrayOf settings rules item =>
      simp only [Schema.item?, checked_bind]
      rw [readItems_eq_validate h _ item hs 0 items]
    | any | string | number | date | boolean | array | object => rfl
  | .object entries =>
    rw [read, Schema.validate]
    cases schema with
    | object settings rules tree =>
      simp only [Schema.tree?, checked_bind]
      rw [readEntries_eq_validate h _ tree (hs tree (by simp [Schema.treeNames])) entries]
    | any | string | number | date | boolean | array | arrayOf => rfl
  | .bool _ | .number _ | .str _ | .day _ | .pattern _ | .moment _ => rfl

theorem readItems_eq_validate (h : c.Agrees store names) (visit : Visit) (item : Schema)
    (hs : ∀ name ∈ item.treeNames, names name) (i : Nat) (items : List Value) :
    c.readItems visit item i items = checked (Schema.validateItems store visit item i items) := by
  match items with
  | [] => rfl
  | v :: rest =>
    rw [readItems, Schema.validateItems, read_eq_validate h (visit.down (.index i)) item hs v,
      readItems_eq_validate h visit item hs (i + 1) rest]
    simp only [checked_bind, checked_pure]

theorem readEntries_eq_validate (h : c.Agrees store names) (visit : Visit) (name : TreeName)
    (hn : names name) (entries : List (String × Value)) :
    c.readEntries visit name entries =
      checked (Schema.validateEntries store visit (store.tree name) entries) := by
  match entries with
  | [] => rfl
  | (key, v) :: rest =>
    rw [readEntries, Schema.validateEntries_cons, Schema.validateEntry, h.entries name hn key,
      readEntries_eq_validate h visit name hn rest]
    cases hlook : lookup? key (store.tree name) with
    | some schema =>
      have hschema := read_eq_validate h (visit.down (.key key)) schema
        (h.closed name hn key schema hlook) v
      simp only [Option.map_some, hschema, checked_bind, checked_pure]
    | none =>
      simp only [Option.map_none]
      split <;> simp only [checked_bind, checked_pure, checked_ok]

end

section Runs

variable {graph : TypeGraph} {directive : String} {cache : Cache}

lemma declared?_input (hw : graph.WellNamed) {type : InputType}
    (hd : Declares ⟨graph, directive⟩ type) {field : InputValue} (hf : field ∈ type.fields) :
    declared? ⟨graph, directive⟩ (.input type.name) field.name =
      some (freshSchema ⟨graph, directive⟩ field.name field.type
        (ownArguments ⟨graph, directive⟩ field)) := by
  have hfield := find?_of_mem (hw.inputs type hd.mem) hf
  have htype : input? ⟨graph, directive⟩ type.name = some type := hd
  simp [declared?, htype, hfield]

lemma declared?_arguments (hw : graph.WellNamed) {type : ObjectType} (ht : .object type ∈ graph)
    {field : ObjectField} (hf : field ∈ type.fields) {argument : InputValue}
    (ha : argument ∈ field.arguments) {d : Directive}
    (hann : findDirective? directive argument.directives = some d) :
    declared? ⟨graph, directive⟩ (.arguments type.name field.name) argument.name =
      some (freshSchema ⟨graph, directive⟩ argument.name argument.type d.arguments) := by
  have htype : graph.find? type.name = some (.object type) := hw.find?_eq ht
  have hfield := find?_of_mem (hw.objects type ht) hf
  have hargument := find?_of_mem (hw.arguments type ht field hf) ha
  simp [declared?, htype, hfield, hargument, hann]

/-- Types with reserved names are not annotated. -/
structure Seen (graph : TypeGraph) (directive : String) : Prop where
  inputs : ∀ type, .input type ∈ graph → ∀ field ∈ type.fields, ∀ d,
    findDirective? directive field.directives = some d →
      (TypeDefinition.input type).isReserved = false
  arguments : ∀ type, .object type ∈ graph → ∀ field ∈ type.fields,
    ∀ argument ∈ field.arguments, ∀ d, findDirective? directive argument.directives = some d →
      (TypeDefinition.object type).isReserved = false

lemma Seen.mem_of_field (hseen : Seen graph directive) {type : InputType}
    (ht : .input type ∈ graph) {field : InputValue} (hf : field ∈ type.fields) {d : Directive}
    (hann : findDirective? directive field.directives = some d) :
    ⟨field.type, d.arguments, field.name, .input type.name⟩ ∈ graph.annotations directive :=
  TypeGraph.mem_annotations.mpr (Or.inl ⟨type, ht, hseen.inputs type ht field hf d hann,
    TypeGraph.mem_annotated?.mpr ⟨field, hf, d, hann, rfl⟩⟩)

lemma Seen.mem_of_argument (hseen : Seen graph directive) {type : ObjectType}
    (ht : .object type ∈ graph) {field : ObjectField} (hf : field ∈ type.fields)
    {argument : InputValue} (ha : argument ∈ field.arguments) {d : Directive}
    (hann : findDirective? directive argument.directives = some d) :
    ⟨argument.type, d.arguments, argument.name, .arguments type.name field.name⟩ ∈
      graph.annotations directive :=
  TypeGraph.mem_annotations.mpr (Or.inr ⟨type, ht,
    hseen.arguments type ht field hf argument ha d hann, field, hf,
    TypeGraph.mem_annotated?.mpr ⟨argument, ha, d, hann, rfl⟩⟩)

/-- What compilations leave in a place is what is declared for it. -/
lemma declared?_of_leaves (hw : graph.WellNamed) (hseen : Seen graph directive) {name : TreeName}
    {key : String} {s : Schema}
    (h : Leaves ⟨graph, directive⟩ (graph.annotations directive) name key s) :
    declared? ⟨graph, directive⟩ name key = some (.ok s) := by
  rcases h with ⟨call, hm, rfl, rfl, hs⟩ | ⟨hnone, type, field, hr, rfl, hf, rfl, hs⟩
  · rcases TypeGraph.mem_annotations.mp hm with
      ⟨type, ht, _, hcall⟩ | ⟨type, ht, _, field, hf, hcall⟩
    · obtain ⟨field, hf, d, hann, rfl⟩ := TypeGraph.mem_annotated?.mp hcall
      have hown : ownArguments ⟨graph, directive⟩ field = d.arguments := by
        simp [ownArguments, hann]
      rw [declared?_input hw (hw.declares ht) hf, hown, hs]
    · obtain ⟨argument, ha, d, hann, rfl⟩ := TypeGraph.mem_annotated?.mp hcall
      rw [declared?_arguments hw ht hf ha hann, hs]
  · have hown : ownArguments ⟨graph, directive⟩ field = [] := by
      unfold ownArguments
      cases hann : findDirective? directive field.directives with
      | none => rfl
      | some d =>
        exact absurd ⟨rfl, rfl⟩ (hnone _ (hseen.mem_of_field hr.declares.mem hf hann))
    rw [declared?_input hw hr.declares hf, hown, hs]

/-- The trees that checks of the arguments of fields meet. -/
def Met (c : Compiler) (calls : List CompileCall) (name : TreeName) : Prop :=
  (∃ owner field, name = .arguments owner field) ∨
    ∃ type, c.Reached calls type ∧ name = .input type.name

/-- Something is declared only for places that the compilations do not leave empty. -/
lemma declared?_eq_none (hw : graph.WellNamed) (hseen : Seen graph directive)
    (h : run ⟨graph, directive⟩ (graph.annotations directive) = .ok cache) {name : TreeName}
    (hn : Met ⟨graph, directive⟩ (graph.annotations directive) name) {key : String}
    (hnone : lookup? key (cache.store.tree name) = none) :
    declared? ⟨graph, directive⟩ name key = none := by
  by_contra hdeclared
  obtain ⟨result, hresult⟩ := Option.ne_none_iff_exists'.mp hdeclared
  rcases hn with ⟨owner, fieldName, rfl⟩ | ⟨type, hr, rfl⟩
  · simp only [declared?] at hresult
    split at hresult
    · rename_i type hfind
      simp only [Option.bind_eq_bind, Option.bind_eq_some_iff] at hresult
      obtain ⟨field, hfield, argument, hargument, d, hann, _⟩ := hresult
      have ht : .object type ∈ graph := List.mem_of_find?_eq_some hfind
      have hf := List.mem_of_find?_eq_some hfield
      have ha := List.mem_of_find?_eq_some hargument
      obtain ⟨s, _, hlook⟩ :=
        (runs_of_run hw h).lookup?_call hw.apart (hseen.mem_of_argument ht hf ha hann)
      have howner : type.name = owner := by
        simpa [TypeDefinition.name] using List.find?_some hfind
      have hname : field.name = fieldName := by simpa using List.find?_some hfield
      have hkey : argument.name = key := by simpa using List.find?_some hargument
      subst howner hname hkey
      cases hnone.symm.trans hlook
    · cases hresult
  · have hd : input? ⟨graph, directive⟩ type.name = some type := hr.declares
    simp only [declared?, hd, Option.bind_eq_bind, Option.bind_eq_some_iff] at hresult
    obtain ⟨other, hother, field, hfield, _⟩ := hresult
    obtain rfl := Option.some.inj hother
    have hholds := ((runs_of_run hw h).holds hw.fits hr).2 field (List.mem_of_find?_eq_some hfield)
    have hkey : field.name = key := by simpa using List.find?_some hfield
    rw [hkey] at hholds
    simp [hasKey, hnone] at hholds

/-- After a run for all annotations, the trees that checks meet hold what is declared. -/
theorem agrees_of_run (hw : graph.WellNamed) (hseen : Seen graph directive)
    (h : run ⟨graph, directive⟩ (graph.annotations directive) = .ok cache) :
    Agrees ⟨graph, directive⟩ cache.store
      (Met ⟨graph, directive⟩ (graph.annotations directive)) := by
  constructor
  · intro name hn key
    cases hlook : lookup? key (cache.store.tree name) with
    | none => exact declared?_eq_none hw hseen h hn hlook
    | some s =>
      exact declared?_of_leaves hw hseen ((lookup?_of_run hw hw.fits hw.apart h name key s).mp hlook)
  · intro name hn key s hlook next hnext
    right
    rcases (lookup?_of_run hw hw.fits hw.apart h name key s).mp hlook with
      ⟨call, hm, _, _, hs⟩ | ⟨_, type, field, hr, _, hf, _, hs⟩
    · obtain ⟨root, hroot, rfl⟩ := input?_of_mem_treeNames hs hnext
      exact ⟨root, ⟨call, hm, .root hroot⟩, rfl⟩
    · obtain ⟨root, hroot, rfl⟩ := input?_of_mem_treeNames hs hnext
      obtain ⟨call, hm, hreach⟩ := hr
      exact ⟨root, ⟨call, hm, hreach.leads ⟨field, hf, hroot⟩⟩, rfl⟩

end Runs

end Compiler

namespace Service

variable {ρ : Type}

/-- The types that are declared together with the directive are no objects, and not annotated. -/
lemma helper_cases {directive : String} {type : TypeDefinition}
    (h : type ∈ Declaration.types directive) :
    (∃ enum, type = .enum enum) ∨
      ∃ input : InputType, type = .input input ∧ ∀ field ∈ input.fields, field.directives = [] := by
  simp only [Declaration.types, List.mem_append, List.mem_map] at h
  rcases h with ⟨enum, _, rfl⟩ | ⟨input, _, rfl⟩
  · exact Or.inl ⟨_, rfl⟩
  · refine Or.inr ⟨_, rfl, fun field hf => ?_⟩
    obtain ⟨⟨name, type⟩, _, rfl⟩ := List.mem_map.mp hf
    rfl

lemma seen_types {directive : String} {graph : TypeGraph}
    (hnames : ∀ type ∈ graph, type.isReserved = false) :
    Compiler.Seen (Declaration.types directive ++ graph) directive := by
  constructor
  · intro type ht field hf d hann
    rcases List.mem_append.mp ht with hhelper | hg
    · rcases helper_cases hhelper with ⟨_, he⟩ | ⟨input, hi, hfields⟩
      · cases he
      · obtain rfl := TypeDefinition.input.inj hi
        rw [hfields field hf] at hann
        cases hann
    · exact hnames _ hg
  · intro type ht field _ argument _ d _
    rcases List.mem_append.mp ht with hhelper | hg
    · rcases helper_cases hhelper with ⟨_, he⟩ | ⟨_, hi, _⟩
      · cases he
      · cases hi
    · exact hnames _ hg

/-- A service that could be made comes from a look at all types, those of the directive first. -/
lemma visitTypes_of_build {config : Config} {graph : TypeGraph} {bindings : Bindings ρ}
    {s : Service ρ} (h : build config graph bindings = .ok s) :
    (start config (Declaration.types config.directive ++ graph) bindings).visitTypes = .ok s := by
  unfold build at h
  dsimp only at h
  split at h
  · cases h
  · exact h

/-- In a service that could be made, the resolver of each field with an annotated argument is
guarded, and the check of its arguments has the same outcome as a reading that keeps no trees. -/
theorem read_eq_attempt (config : Config) (graph : TypeGraph) (bindings : Bindings ρ)
    (hw : TypeGraph.WellNamed (Declaration.types config.directive ++ graph))
    (hnames : ∀ type ∈ graph, type.isReserved = false) {s : Service ρ}
    (h : build config graph bindings = .ok s) {type : ObjectType} (ht : .object type ∈ graph)
    {field : ObjectField} (hf : field ∈ type.fields) {argument : InputValue}
    (ha : argument ∈ field.arguments) {d : Directive}
    (hann : findDirective? config.directive argument.directives = some d) :
    let tree : TreeName := .arguments type.name field.name
    (∃ handler, s.field? type.name field.name =
      some ⟨type.name, field.name, .guarded handler tree⟩) ∧
      ∀ (prefs : Preferences) (env : Environment) (arguments : Entries),
        s.compiler.read ⟨[], prefs, env⟩ (.object .plain [] tree) (.object arguments) =
          checked (attempt s.cache.store prefs env (.object .plain [] tree)
            (.object arguments)) := by
  intro tree
  have hseen : Compiler.Seen (Declaration.types config.directive ++ graph) config.directive :=
    seen_types hnames
  have htype : .object type ∈ Declaration.types config.directive ++ graph :=
    List.mem_append_right _ ht
  have hvisit := visitTypes_of_build h
  rw [visitTypes_eq] at hvisit
  split at hvisit
  · rename_i cache hrun
    obtain rfl := Except.ok.inj hvisit
    constructor
    · have hoffers : Offers (Declaration.types config.directive ++ graph) type.name field.name :=
        ⟨type, List.mem_append_left _ (List.mem_filterMap.mpr ⟨.object type, htype, rfl⟩), rfl,
          field, hf, rfl⟩
      exact field?_guarded rfl hoffers (hseen.mem_of_argument htype hf ha hann) rfl
    · intro prefs env arguments
      refine Compiler.read_eq_validate (Compiler.agrees_of_run hw hseen hrun) _ _ ?_ _
      intro name hn
      exact Or.inl ⟨type.name, field.name, by simpa [Schema.treeNames] using hn⟩
  · cases hvisit

lemma helper_names (directive : String) :
    (Declaration.types directive).map (·.name) =
      (Declaration.enums.map (·.1) ++ Declaration.inputs.map (·.1)).map
        (Declaration.capitalise directive ++ ·) := by
  simp only [Declaration.types, List.map_append, List.map_map]
  rfl

/-- The types of a service are well named together with those that come with the directive, if no
two of them have the same name. -/
lemma wellNamed_types {graph : TypeGraph} (directive : String) (hw : graph.WellNamed)
    (hnew : ∀ type ∈ graph, type.name ∉ (Declaration.types directive).map (·.name)) :
    TypeGraph.WellNamed (Declaration.types directive ++ graph) := by
  constructor
  · rw [List.map_append]
    refine List.nodup_append.mpr ⟨?_, hw.types, ?_⟩
    · rw [helper_names]
      refine List.Nodup.map (fun a b hab => ?_) (by decide)
      exact String.append_right_inj _ |>.mp hab
    · rintro name hname _ hmem rfl
      obtain ⟨type, ht, rfl⟩ := List.mem_map.mp hmem
      exact hnew type ht hname
  · intro type ht
    rcases List.mem_append.mp ht with hhelper | hg
    · simp only [Declaration.types, List.mem_append, List.mem_map] at hhelper
      rcases hhelper with ⟨_, _, he⟩ | ⟨input, hi, he⟩
      · cases he
      · obtain rfl := TypeDefinition.input.inj he
        have hkeys : ∀ input ∈ Declaration.inputs, (input.2.map (·.1)).Nodup := by decide
        simp only [List.map_map]
        exact hkeys input hi
    · exact hw.inputs type hg
  · intro type ht
    rcases List.mem_append.mp ht with hhelper | hg
    · rcases helper_cases hhelper with ⟨_, he⟩ | ⟨_, hi, _⟩
      · cases he
      · cases hi
    · exact hw.objects type hg
  · intro type ht
    rcases List.mem_append.mp ht with hhelper | hg
    · rcases helper_cases hhelper with ⟨_, he⟩ | ⟨_, hi, _⟩
      · cases he
      · cases hi
    · exact hw.arguments type hg

def filterType : InputType :=
  ⟨"Filter", [⟨"all", .list (.named "Filter"), []⟩,
    ⟨"text", .named "String", [⟨"validate", [("lowercase", .enum "TRUE")]⟩]⟩], []⟩

def filterArgument : InputValue := ⟨"filter", .named "Filter", [⟨"validate", []⟩]⟩

def searchType : ObjectType := ⟨"Query", [⟨"search", [filterArgument]⟩]⟩

def searchGraph : TypeGraph := [.object searchType, .input filterType]

lemma searchGraph_wellNamed :
    TypeGraph.WellNamed (Declaration.types Config.default.directive ++ searchGraph) := by
  refine wellNamed_types _ ⟨by decide, ?_, ?_, ?_⟩ (by decide)
  · intro type ht
    simp only [searchGraph, List.mem_cons, reduceCtorEq, TypeDefinition.input.injEq,
      List.not_mem_nil, or_false, false_or] at ht
    subst ht
    decide
  · intro type ht
    simp only [searchGraph, List.mem_cons, reduceCtorEq, TypeDefinition.object.injEq,
      List.not_mem_nil, or_false] at ht
    subst ht
    decide
  · intro type ht
    simp only [searchGraph, List.mem_cons, reduceCtorEq, TypeDefinition.object.injEq,
      List.not_mem_nil, or_false] at ht
    subst ht
    decide

theorem read_eq_attempt_search :
    TypeGraph.WellNamed (Declaration.types Config.default.directive ++ searchGraph) ∧
      (∀ type ∈ searchGraph, type.isReserved = false) ∧
      ∃ s : Service Unit, build .default searchGraph [] = .ok s ∧
        (∃ handler, s.field? "Query" "search" =
          some ⟨"Query", "search", .guarded handler (.arguments "Query" "search")⟩) ∧
        ∀ (env : Environment) (arguments : Entries),
          s.compiler.read ⟨[], ⟨false, true⟩, env⟩
              (.object .plain [] (.arguments "Query" "search")) (.object arguments) =
            checked (attempt s.cache.store ⟨false, true⟩ env
              (.object .plain [] (.arguments "Query" "search")) (.object arguments)) := by
  have hnames : ∀ type ∈ searchGraph, type.isReserved = false := by decide
  have hbuild : ∃ s : Service Unit, build .default searchGraph [] = .ok s := ⟨_, rfl⟩
  obtain ⟨s, hs⟩ := hbuild
  obtain ⟨hfield, hread⟩ := read_eq_attempt .default searchGraph [] searchGraph_wellNamed hnames hs
    (show .object searchType ∈ searchGraph from List.mem_cons_self) List.mem_cons_self
    (show filterArgument ∈ [filterArgument] from List.mem_cons_self) (d := ⟨"validate", []⟩) rfl
  exact ⟨searchGraph_wellNamed, hnames, s, hs, hfield, hread ⟨false, true⟩⟩

end Service

end InputGuard

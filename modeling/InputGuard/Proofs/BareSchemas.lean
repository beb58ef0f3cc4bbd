import InputGuard.Proofs.Filling
import Mathlib.Data.Set.List

/-!
# Schemas of types without directives

Where input types have no directives, a type makes a schema if it is one of the supported types. So a
compilation without arguments succeeds if and only if all types are supported that are found by
following the fields of input types. After that, the trees of the input types have one entry for each
field, which is the schema of the type of the field.
-/

namespace InputGuard

/-- The value that a symbol of an enumeration stands for: its own one, if it has one, or its name. -/
def symbolValue (symbol : String × Value) : Value :=
  if symbol.2.isNull then .str symbol.1 else symbol.2

def EnumType.values (type : EnumType) : List Value := type.symbols.map symbolValue

namespace TypeGraph

/-- A type that can be checked: an input type, an enumeration of texts, or one of five scalars. -/
def Supports (graph : TypeGraph) (name : String) : Prop :=
  match graph.find? name with
  | some (.input _) => True
  | some (.enum type) => ∀ v ∈ type.values, ∃ s, v = .str s
  | _ => name ∈ ["String", "ID", "Int", "Float", "Boolean"]

/-- The names of types that are found by following a reference and the fields of input types. -/
inductive Mentions (graph : TypeGraph) (ref : TypeRef) : String → Prop
  | base : Mentions graph ref ref.base
  | field {name : String} {type : InputType} {field : InputValue} :
    Mentions graph ref name → graph.find? name = some (.input type) → field ∈ type.fields →
    Mentions graph ref field.type.base

end TypeGraph

lemma symbolText_eq_ok (enum : String) {symbol : String × Value} {s : String} :
    symbolText enum symbol = .ok s ↔ symbolValue symbol = .str s := by
  obtain ⟨name, v⟩ := symbol
  cases v <;> simp [symbolText, symbolValue, Value.isNull]

lemma mapM_symbolText_eq_ok {enum : String} {symbols : List (String × Value)}
    {texts : List String} :
    symbols.mapM (symbolText enum) = .ok texts ↔ symbols.map symbolValue = texts.map .str := by
  induction symbols generalizing texts with
  | nil => cases texts <;> simp
  | cons symbol rest ih =>
    rw [List.mapM_cons, bind_eq_ok]
    cases texts with
    | nil =>
      simp only [List.map_cons, List.map_nil, reduceCtorEq, iff_false]
      rintro ⟨s, _, h⟩
      obtain ⟨ss, _, hpure⟩ := bind_eq_ok.mp h
      cases pure_eq_ok.mp hpure
    | cons text texts =>
      rw [List.map_cons, List.map_cons, List.cons.injEq, ← ih, ← symbolText_eq_ok enum]
      constructor
      · rintro ⟨s, hs, h⟩
        obtain ⟨ss, hss, hpure⟩ := bind_eq_ok.mp h
        cases pure_eq_ok.mp hpure
        exact ⟨hs, hss⟩
      · rintro ⟨hs, hss⟩
        exact ⟨text, hs, bind_eq_ok.mpr ⟨texts, hss, rfl⟩⟩

/-- An enumeration makes a schema if it stands for texts only, and these are what it allows. -/
lemma enumSchema_eq_ok {type : EnumType} {s : Schema} :
    enumSchema type = .ok s ↔ (∀ v ∈ type.values, ∃ text, v = .str text) ∧
      s = .string ⟨[], some type.values⟩ [] := by
  have htexts : (∀ v ∈ type.values, ∃ text, v = .str text) ↔
      ∃ texts : List String, type.values = texts.map .str := by
    have hrange := Set.ext_iff.mp (Set.range_list_map Value.str) type.values
    simpa [eq_comm] using hrange.symm
  rw [htexts, enumSchema, bind_eq_ok]
  constructor
  · rintro ⟨texts, hmap, hpure⟩
    have hvalues : type.values = texts.map .str := mapM_symbolText_eq_ok.mp hmap
    refine ⟨⟨texts, hvalues⟩, ?_⟩
    rw [hvalues]
    exact (pure_eq_ok.mp hpure).symm
  · rintro ⟨⟨texts, hvalues⟩, rfl⟩
    refine ⟨texts, mapM_symbolText_eq_ok.mpr hvalues, ?_⟩
    rw [hvalues]
    rfl

lemma scalarSchema_cases {name : String} {s : Schema} (h : scalarSchema name = .ok s) :
    (name = "String" ∧ s = .string .plain []) ∨ (name = "ID" ∧ s = .string .plain []) ∨
      (name = "Int" ∧ s = .number .plain [.integer] false) ∨
      (name = "Float" ∧ s = .number .plain [] false) ∨ (name = "Boolean" ∧ s = .boolean .plain) := by
  rw [scalarSchema] at h
  split at h
  · rename_i schema hlook
    cases h
    simpa [scalarSchemas] using mem_of_lookup? hlook
  · cases h

lemma exists_scalarSchema_iff {name : String} :
    (∃ s, scalarSchema name = .ok s) ↔ name ∈ ["String", "ID", "Int", "Float", "Boolean"] := by
  simp only [List.mem_cons, List.not_mem_nil, or_false]
  constructor
  · rintro ⟨s, hs⟩
    obtain ⟨h, _⟩ | ⟨h, _⟩ | ⟨h, _⟩ | ⟨h, _⟩ | ⟨h, _⟩ := scalarSchema_cases hs <;> simp [h]
  · rintro (rfl | rfl | rfl | rfl | rfl) <;> exact ⟨_, rfl⟩

namespace Compiler

/-- There is no directive on an input type. -/
def Bare (c : Compiler) : Prop :=
  ∀ type, .input type ∈ c.graph → findDirective? c.directive type.directives = none

variable {c : Compiler} {field name : String} {ref : TypeRef} {s : Schema}

lemma freshBase_input (hb : c.Bare) {type : InputType}
    (h : c.graph.find? name = some (.input type)) :
    c.freshBase field name = .ok (.object .plain [] (.input type.name)) := by
  have harguments : c.typeArguments type = [] := by
    rw [typeArguments, hb type (List.mem_of_find?_eq_some h)]
    rfl
  rw [freshBase, h]
  dsimp only
  rw [harguments]
  rfl

lemma freshBase_scalar (hinput : ∀ type, c.graph.find? name ≠ some (.input type))
    (henum : ∀ type, c.graph.find? name ≠ some (.enum type)) :
    c.freshBase field name = scalarSchema name := by
  unfold freshBase
  split
  · exact absurd ‹_› (hinput _)
  · exact absurd ‹_› (henum _)
  · rfl

lemma exists_freshBase_iff (hb : c.Bare) :
    (∃ s, c.freshBase field name = .ok s) ↔ c.graph.Supports name := by
  unfold TypeGraph.Supports
  split
  · rename_i type h
    exact iff_of_true ⟨_, freshBase_input hb h⟩ trivial
  · rename_i type h
    simp only [freshBase, h, enumSchema_eq_ok, exists_and_left, exists_eq, and_true]
  · rename_i hinput henum
    rw [← exists_scalarSchema_iff, freshBase_scalar hinput henum]

lemma freshSchema_named : c.freshSchema field (.named name) [] = c.freshBase field name := by
  rw [freshSchema]
  cases c.freshBase field name <;> rfl

lemma freshSchema_list {item : TypeRef} :
    c.freshSchema field (.list item) [] = (c.freshSchema field item []).map (.arrayOf .plain []) := by
  rw [freshSchema]
  cases h : c.freshSchema field item [] with
  | error e => simp [h]; rfl
  | ok s => simp [h]; rfl

lemma exists_freshSchema_iff (hb : c.Bare) :
    (∃ s, c.freshSchema field ref [] = .ok s) ↔ c.graph.Supports ref.base := by
  induction ref with
  | named name => rw [freshSchema_named, exists_freshBase_iff hb, TypeRef.base]
  | nonNull type ih => exact ih
  | list item ih =>
    rw [TypeRef.base, ← ih, freshSchema_list]
    cases c.freshSchema field item [] <;> simp [Except.map]

/-- The tree of a type has one entry for each field: the schema of the type of the field. -/
structure Filled (c : Compiler) (store : Store) (type : InputType) : Prop where
  entry : ∀ f ∈ type.fields, ∃ s, lookup? f.name (store.tree (.input type.name)) = some s ∧
    c.freshSchema f.name f.type [] = .ok s
  only : ∀ key s, lookup? key (store.tree (.input type.name)) = some s →
    ∃ f ∈ type.fields, f.name = key

variable {target : TreeName} {type : InputType}

lemma input?_of_find? (h : c.graph.find? name = some (.input type)) : c.input? name = some type := by
  rw [input?, h]

lemma mentions_of_reachable (h : c.Reachable ref type) : c.graph.Mentions ref type.name := by
  obtain ⟨root, hroot, hpath⟩ := h
  induction hpath with
  | refl =>
    rw [name_of_input? hroot]
    exact .base
  | @tail type next hp hl ih =>
    obtain ⟨f, hf, hnext⟩ := hl
    have hd : c.Declares type := Reachable.declares ⟨root, hroot, hp⟩
    rw [name_of_input? hnext]
    exact .field ih (input?_eq_some hd) hf

lemma reachable_of_mentions (h : c.graph.Mentions ref name) (ht : c.input? name = some type) :
    c.Reachable ref type := by
  induction h generalizing type with
  | base => exact .root ht
  | field _ hfind hf ih => exact (ih (input?_of_find? hfind)).leads ⟨_, hf, ht⟩

/-- A compilation that succeeds from an empty cache fills the trees of all types behind it. -/
lemma compile_ok_filled (hw : c.graph.WellNamed) {arguments : Arguments}
    (h : (c.compile ref arguments field target .empty).1 = .ok s) :
    ∃ after : Cache, (c.compile ref arguments field target .empty).2 = after.put target field s ∧
      c.freshSchema field ref arguments = .ok s ∧
      ∀ type, c.Reachable ref type → c.Filled after.store type := by
  obtain ⟨after, hafter, hfresh, hidle, hgrows, hsettled, hroot⟩ :=
    compile_ok hw rfl (fun _ => Reachable.root)
      (fun type _ hr f hf _ next hnext => hr.leads ⟨f, hf, hnext⟩) h
  refine ⟨after, hafter, hfresh, fun type hr => ?_⟩
  have hholds : after.Holds type :=
    (hsettled .empty (settled_self .empty)).holds_reachable hidle hroot hr
  have hnew : ∀ key s, lookup? key (after.store.tree (.input type.name)) = some s →
      ∃ f ∈ type.fields, f.name = key ∧ c.freshSchema f.name f.type [] = .ok s := by
    intro key s hs
    rcases hgrows.entry_new _ key s hs with hold | ⟨other, f, ho, _, hname, hf, rfl, hfr⟩
    · cases hold
    · obtain rfl := hr.declares.eq_of_name ho (TreeName.input.inj hname)
      exact ⟨f, hf, rfl, hfr⟩
  constructor
  · intro f hf
    obtain ⟨s, hs⟩ := hasKey_iff.mp (hholds.2 f hf)
    obtain ⟨g, hg, hname, hfr⟩ := hnew f.name s hs
    obtain rfl := hr.declares.field_eq hw hf hg hname.symm
    exact ⟨s, hs, hfr⟩
  · intro key s hs
    obtain ⟨f, hf, hname, _⟩ := hnew key s hs
    exact ⟨f, hf, hname⟩

/-- A compilation of a type without arguments, from an empty cache, succeeds if and only if all types
are supported that it leads to. -/
theorem compile_bare_succeeds_iff (hw : c.graph.WellNamed) (hb : c.Bare) (ref : TypeRef)
    (field : String) (target : TreeName) :
    (∃ s, (c.compile ref [] field target .empty).1 = .ok s) ↔
      ∀ name, c.graph.Mentions ref name → c.graph.Supports name := by
  constructor
  · rintro ⟨s, hs⟩ name hname
    obtain ⟨after, _, hfresh, hfilled⟩ := compile_ok_filled hw hs
    cases hname with
    | base => exact (exists_freshSchema_iff hb).mp ⟨s, hfresh⟩
    | field hm hfind hf =>
      have hr := reachable_of_mentions hm (input?_of_find? hfind)
      obtain ⟨t, _, ht⟩ := (hfilled _ hr).entry _ hf
      exact (exists_freshSchema_iff hb).mp ⟨t, ht⟩
  · intro hall
    obtain ⟨s, hs⟩ : ∃ s, c.freshSchema field ref [] = .ok s :=
      (exists_freshSchema_iff hb).mpr (hall _ .base)
    refine ⟨s, compile_succeeds hw rfl (fun _ => Reachable.root)
      (fun type _ hr f hf _ next hnext => hr.leads ⟨f, hf, hnext⟩) ?_ hs⟩
    intro type hd hr f hf
    have hmentions := TypeGraph.Mentions.field (mentions_of_reachable hr) (input?_eq_some hd) hf
    exact (exists_freshSchema_iff hb).mpr (hall _ hmentions)

end Compiler

end InputGuard

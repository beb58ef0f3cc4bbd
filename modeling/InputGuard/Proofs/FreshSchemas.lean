import InputGuard.Proofs.Refinements

/-!
# Fresh schemas

The cache has no part in the schema that a type and the arguments of a directive make: `freshSchema`
is that schema without a cache. What the compilation of a type does to the cache is decided by the
named type inside the lists alone, and it is to fill the tree of an input type.
-/

namespace InputGuard

/-- The name of the type inside the lists. -/
def TypeRef.base : TypeRef → String
  | named name => name
  | list item => item.base
  | nonNull type => type.base

namespace Schema

variable {schema s : Schema} {field : String} {name : TreeName}

lemma treeNames_withSettings (schema : Schema) (s : Settings) :
    (schema.withSettings s).treeNames = schema.treeNames := by
  cases schema <;> rfl

lemma Refines.treeNames_eq (h : schema.Refines s) : s.treeNames = schema.treeNames := by
  cases h with
  | settings => exact treeNames_withSettings _ _
  | _ => rfl

lemma treeNames_castSchema {v : Value} (h : castSchema v = .ok s) : s.treeNames = [] := by
  have hcasts : ∀ c ∈ casts, c.2.treeNames = [] := by decide
  obtain ⟨_, hmem⟩ := exists_mem_casts h
  exact hcasts _ hmem

lemma treeNames_applyArgument {argument : String × Literal}
    (h : schema.applyArgument field argument = .ok s) : s.treeNames ⊆ schema.treeNames := by
  rcases applyArgument_cases h with ⟨-, v, hcast⟩ | ⟨-, rfl | hrefines⟩
  · rw [treeNames_castSchema hcast]
    exact List.nil_subset _
  · exact fun _ hn => hn
  · rw [hrefines.treeNames_eq]
    exact fun _ hn => hn

/-- Arguments never make a schema lead to a further tree. -/
lemma treeNames_applyArguments {arguments : Arguments}
    (h : schema.applyArguments arguments field = .ok s) : s.treeNames ⊆ schema.treeNames := by
  apply applyArguments_keeps (fun t => t.treeNames ⊆ schema.treeNames) ?_ (List.Subset.refl _) h
  intro t argument _ u ht hu
  exact List.Subset.trans (treeNames_applyArgument hu) ht

end Schema

namespace Compiler

variable (c : Compiler)

/-- The schema of a named type under no arguments but those on the type itself. -/
def freshBase (field name : String) : Except CompileFailure Schema :=
  match c.graph.find? name with
  | some (.input type) =>
    (Schema.object .plain [] (.input type.name)).applyArguments (c.typeArguments type) field
  | some (.enum type) => enumSchema type
  | _ => scalarSchema name

/-- The schema of a type under the arguments of a directive. -/
def freshSchema (field : String) : TypeRef → Arguments → Except CompileFailure Schema
  | .nonNull type, arguments => freshSchema field type arguments
  | .list type, arguments => do
    let item ← freshSchema field type (arguments.filter fun a => !isArrayScoped a.1)
    (Schema.arrayOf .plain [] item).applyArguments
      (arguments.filter fun a => isArrayScoped a.1) field
  | .named name, arguments => do
    (← c.freshBase field name).applyArguments arguments field

/-- The input type that a name stands for. -/
def input? (name : String) : Option InputType :=
  match c.graph.find? name with
  | some (.input type) => some type
  | _ => none

/-- What the compilation of a named type does to the cache. -/
def visitBase (fill : InputType → Cache → Compiled Unit) (name : String) (cache : Cache) :
    Compiled Unit :=
  match c.input? name with
  | some type =>
    if (cache.reserve type.name).isFilling type.name then (.ok (), cache.reserve type.name)
    else fill type (cache.reserve type.name)
  | none => (.ok (), cache)

variable {c} {field : String} {ref : TypeRef} {arguments : Arguments} {schema : Schema}
  {fill : InputType → Cache → Compiled Unit}

lemma namedSchema_eq (field name : String) (cache : Cache) :
    c.namedSchema fill field name cache =
      ((c.visitBase fill name cache).1 >>= fun _ => c.freshBase field name,
        (c.visitBase fill name cache).2) := by
  unfold namedSchema visitBase freshBase input?
  cases c.graph.find? name with
  | none => rfl
  | some type =>
    cases type <;> rfl

/-- A compilation is a visit of the cache, and then the fresh schema if the visit succeeds. -/
theorem refSchema_eq (ref : TypeRef) (arguments : Arguments) (cache : Cache) :
    c.refSchema fill field ref arguments cache =
      ((c.visitBase fill ref.base cache).1 >>= fun _ => c.freshSchema field ref arguments,
        (c.visitBase fill ref.base cache).2) := by
  induction ref generalizing arguments with
  | nonNull type ih => exact ih arguments
  | list type ih =>
    simp only [refSchema, ih, freshSchema, TypeRef.base, bind_assoc]
  | named name =>
    simp only [refSchema, namedSchema_eq, freshSchema, TypeRef.base, bind_assoc]

lemma input?_eq_some {name : String} {type : InputType} (h : c.input? name = some type) :
    c.graph.find? name = some (.input type) := by
  unfold input? at h
  split at h
  · rename_i t hfind
    rw [hfind, Option.some.inj h]
  · cases h

lemma name_of_input? {name : String} {type : InputType} (h : c.input? name = some type) :
    type.name = name := by
  have hname := List.find?_some (input?_eq_some h)
  exact eq_of_beq hname

/-- If the arguments of a directive can be applied, then the type makes a schema without them. -/
lemma exists_freshSchema_nil (h : c.freshSchema field ref arguments = .ok schema) :
    ∃ bare, c.freshSchema field ref [] = .ok bare := by
  induction ref generalizing arguments schema with
  | nonNull type ih => exact ih h
  | list type ih =>
    obtain ⟨item, hitem, _⟩ := bind_eq_ok.mp h
    obtain ⟨bare, hbare⟩ := ih hitem
    exact ⟨.arrayOf .plain [] bare, bind_eq_ok.mpr ⟨bare, hbare, rfl⟩⟩
  | named name =>
    obtain ⟨base, hbase, _⟩ := bind_eq_ok.mp h
    exact ⟨base, bind_eq_ok.mpr ⟨base, hbase, rfl⟩⟩

/-- A fresh schema leads at most to the tree of the input type that its type is made of. -/
lemma input?_of_mem_treeNames {name : TreeName}
    (h : c.freshSchema field ref arguments = .ok schema) (hn : name ∈ schema.treeNames) :
    ∃ type, c.input? ref.base = some type ∧ name = .input type.name := by
  induction ref generalizing arguments schema with
  | nonNull type ih => exact ih h hn
  | list type ih =>
    obtain ⟨item, hitem, happly⟩ := bind_eq_ok.mp h
    exact ih hitem (Schema.treeNames_applyArguments happly hn)
  | named n =>
    obtain ⟨base, hbase, happly⟩ := bind_eq_ok.mp h
    have hmem := Schema.treeNames_applyArguments happly hn
    unfold freshBase at hbase
    split at hbase
    · rename_i type hfind
      have htree := Schema.treeNames_applyArguments hbase hmem
      exact ⟨type, by simp [input?, TypeRef.base, hfind], List.mem_singleton.mp htree⟩
    · obtain ⟨texts, _, hpure⟩ := bind_eq_ok.mp hbase
      rw [← pure_eq_ok.mp hpure] at hmem
      cases hmem
    · unfold scalarSchema at hbase
      split at hbase
      · rename_i s hscalar
        cases hbase
        have hscalars := mem_of_lookup? hscalar
        simp only [scalarSchemas, List.mem_cons, Prod.mk.injEq, List.not_mem_nil,
          or_false] at hscalars
        rcases hscalars with ⟨_, rfl⟩ | ⟨_, rfl⟩ | ⟨_, rfl⟩ | ⟨_, rfl⟩ | ⟨_, rfl⟩ <;> cases hmem
      · cases hbase

end Compiler

end InputGuard

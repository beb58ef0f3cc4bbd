import InputGuard.Proofs.Growth
import Mathlib.Data.List.Perm.Basic

/-!
# Types in another order

When the types of a service, their fields and the arguments of fields are defined in another order,
each of them still has one counterpart, of the same name.
-/

namespace InputGuard

/-- The items of two lists correspond to each other, in some order. -/
def ReorderedBy {α : Type} (same : α → α → Prop) (items items' : List α) : Prop :=
  ∃ middle, List.Forall₂ same items middle ∧ middle.Perm items'

namespace ReorderedBy

variable {α β : Type} {same : α → α → Prop} {items items' : List α}

lemma exists_mem (h : ReorderedBy same items items') {a : α} (ha : a ∈ items) :
    ∃ a' ∈ items', same a a' := by
  obtain ⟨middle, hsame, hperm⟩ := h
  obtain ⟨a', ha', hs⟩ : ∃ a' ∈ middle, same a a' := by
    clear hperm
    induction hsame with
    | nil => cases ha
    | @cons b b' rest rest' hb _ ih =>
      rcases List.mem_cons.mp ha with rfl | hr
      · exact ⟨b', List.mem_cons_self, hb⟩
      · obtain ⟨a', ha', hs⟩ := ih hr
        exact ⟨a', List.mem_cons_of_mem _ ha', hs⟩
  exact ⟨a', hperm.mem_iff.mp ha', hs⟩

lemma symm (hs : ∀ a b, same a b → same b a) (h : ReorderedBy same items items') :
    ReorderedBy same items' items := by
  obtain ⟨middle, hsame, hperm⟩ := h
  have hback : List.Forall₂ same middle items := by
    clear hperm
    induction hsame with
    | nil => exact .nil
    | cons hab _ ih => exact .cons (hs _ _ hab) ih
  exact List.perm_comp_forall₂ hperm.symm hback

lemma map_perm {f : α → β} (hf : ∀ a b, same a b → f a = f b)
    (h : ReorderedBy same items items') : (items.map f).Perm (items'.map f) := by
  obtain ⟨middle, hsame, hperm⟩ := h
  have hmap : items.map f = middle.map f := by
    clear hperm
    induction hsame with
    | nil => rfl
    | cons hab _ ih => rw [List.map_cons, List.map_cons, hf _ _ hab, ih]
  rw [hmap]
  exact hperm.map f

end ReorderedBy

structure InputType.Reordered (type type' : InputType) : Prop where
  name : type.name = type'.name
  fields : type.fields.Perm type'.fields
  directives : type.directives = type'.directives

structure ObjectField.Reordered (field field' : ObjectField) : Prop where
  name : field.name = field'.name
  arguments : field.arguments.Perm field'.arguments

structure ObjectType.Reordered (type type' : ObjectType) : Prop where
  name : type.name = type'.name
  fields : ReorderedBy ObjectField.Reordered type.fields type'.fields

/-- The same type with its fields, and the arguments of these, in another order. -/
inductive TypeDefinition.Reordered : TypeDefinition → TypeDefinition → Prop
  | scalar (name : String) : Reordered (.scalar name) (.scalar name)
  | enum (type : EnumType) : Reordered (.enum type) (.enum type)
  | input {type type' : InputType} : type.Reordered type' → Reordered (.input type) (.input type')
  | object {type type' : ObjectType} :
    type.Reordered type' → Reordered (.object type) (.object type')

/-- The same types in another order, and so for what they consist of. -/
def TypeGraph.Reordered (graph graph' : TypeGraph) : Prop :=
  ReorderedBy TypeDefinition.Reordered graph graph'

lemma InputType.Reordered.symm {type type' : InputType} (h : type.Reordered type') :
    type'.Reordered type :=
  ⟨h.name.symm, h.fields.symm, h.directives.symm⟩

lemma ObjectType.Reordered.symm {type type' : ObjectType} (h : type.Reordered type') :
    type'.Reordered type :=
  ⟨h.name.symm, h.fields.symm fun _ _ hf => ⟨hf.name.symm, hf.arguments.symm⟩⟩

lemma TypeDefinition.Reordered.symm {type type' : TypeDefinition} (h : type.Reordered type') :
    type'.Reordered type := by
  cases h with
  | scalar name => exact .scalar name
  | enum type => exact .enum type
  | input h => exact .input h.symm
  | object h => exact .object h.symm

lemma TypeDefinition.Reordered.name {type type' : TypeDefinition} (h : type.Reordered type') :
    type.name = type'.name := by
  cases h with
  | scalar name | enum type => rfl
  | input h => exact h.name
  | object h => exact h.name

namespace TypeGraph.Reordered

variable {graph graph' : TypeGraph}

lemma symm (h : graph.Reordered graph') : graph'.Reordered graph :=
  ReorderedBy.symm (fun _ _ => TypeDefinition.Reordered.symm) h

lemma exists_input (h : graph.Reordered graph') {type : InputType} (ht : .input type ∈ graph) :
    ∃ type', .input type' ∈ graph' ∧ type.Reordered type' := by
  obtain ⟨other, ho, hsame⟩ := h.exists_mem ht
  cases hsame with
  | input hr => exact ⟨_, ho, hr⟩

lemma exists_object (h : graph.Reordered graph') {type : ObjectType} (ht : .object type ∈ graph) :
    ∃ type', .object type' ∈ graph' ∧ type.Reordered type' := by
  obtain ⟨other, ho, hsame⟩ := h.exists_mem ht
  cases hsame with
  | object hr => exact ⟨_, ho, hr⟩

lemma wellNamed (h : graph.Reordered graph') (hw : graph.WellNamed) : graph'.WellNamed where
  types :=
    (ReorderedBy.map_perm (fun _ _ hs => hs.name) h).nodup_iff.mp hw.types
  inputs := by
    intro type ht
    obtain ⟨type', ht', hr⟩ := h.symm.exists_input ht
    exact (hr.fields.map _).nodup_iff.mpr (hw.inputs type' ht')
  objects := by
    intro type ht
    obtain ⟨type', ht', hr⟩ := h.symm.exists_object ht
    exact (hr.fields.map_perm fun _ _ hf => hf.name).nodup_iff.mpr (hw.objects type' ht')
  arguments := by
    intro type ht field hf
    obtain ⟨type', ht', hr⟩ := h.symm.exists_object ht
    obtain ⟨field', hf', hsame⟩ := hr.fields.exists_mem hf
    exact (hsame.arguments.map _).nodup_iff.mpr (hw.arguments type' ht' field' hf')

end TypeGraph.Reordered

end InputGuard

import InputGuard.Proofs.ArgumentRoutes
import InputGuard.Proofs.Refinements

/-!
# Errors of compilations

A compilation that fails should end with an error that is reported. It does if the arguments of all
directives are declared and their values can be worked with: then no argument leads to a fault, on
any schema, and the types themselves never do. Values that fit the declared types are not enough,
since most of these types have null.
-/

namespace InputGuard

open Declaration DeclaredType

/-- Whether a compilation that fails ends with an error that is reported. -/
def CompileFailure.IsReported : CompileFailure → Prop
  | .error _ => True
  | .fault _ => False

/-- A compilation, or a part of one, does not end with a fault. -/
def Reports {α : Type} (x : Except CompileFailure α) : Prop := FailsOnly CompileFailure.IsReported x

lemma Reports.cases {α : Type} {x : Except CompileFailure α} (h : Reports x) :
    (∃ a, x = .ok a) ∨ ∃ e, x = .error (.error e) := by
  cases x with
  | ok a => exact Or.inl ⟨a, rfl⟩
  | error failure =>
    cases failure with
    | error e => exact Or.inr ⟨e, rfl⟩
    | fault f => exact (h _ rfl).elim

/-- The arguments of the directive. -/
def Declaration.arguments : DeclaredFields := argumentGroups.flatMap (·.2)

/-- Whether an argument is declared and its literal fits its type. -/
def isDeclared (argument : String × Literal) : Bool :=
  match lookup? argument.1 Declaration.arguments with
  | some type => argument.2.fits type
  | none => false

/-- A declared argument whose value can be worked with. -/
structure Sound (argument : String × Literal) : Prop where
  declared : isDeclared argument = true
  workable : ∃ v, argument.2.value = .ok v ∧ Workable (Meaning.ofArgument argument.1) v

lemma Declaration.type_of_cast :
    ∀ d ∈ Declaration.arguments, isCast d.1 = true → d.2 = helper "Types" := by
  decide

/-- An argument that is no cast is about preferences or about numbers of any size, or it makes
rules. -/
lemma Declaration.argument_cases : ∀ d ∈ Declaration.arguments, isCast d.1 = false →
    (Meaning.ofArgument d.1).form = .asIs ∧ (Meaning.ofArgument d.1).operation = "prefs" ∨
      Meaning.ofArgument d.1 = .plain "unsafe" .asIs ∨
        ∃ r ∈ Route.all, r.type = d.2 ∧ r.meaning = Meaning.ofArgument d.1 := by
  decide

namespace Schema

variable {field argument : String} {α : Type}

lemma argumentResult_reports {x : Defined α} (h : x.Answers) :
    Reports (argumentResult argument field x) := by
  cases x with
  | ok a => exact .ok a
  | error failure =>
    have hrefusal := h failure rfl
    cases failure with
    | error e => exact .error trivial
    | fault f =>
      cases hrefusal
      exact .error trivial

lemma literalValue_eq_ok {literal : Literal} {v : Value} (h : literal.value = .ok v) :
    literalValue literal = .ok v := by
  rw [literalValue, h]

lemma castSchema_reports {v : Value} (hv : (helper "Types").Has v) : Reports (castSchema v) := by
  rcases hv.symbol rfl with rfl | ⟨s, _, rfl⟩
  · exact .error trivial
  · simp only [castSchema]
    split
    · exact .ok _
    · exact .error trivial

/-- The operation of a declared argument leads to no fault, on any schema that it applies to. -/
lemma argument_answers {d : String × DeclaredType} {v : Value} (hd : d ∈ Declaration.arguments)
    (hcast : isCast d.1 = false) (hv : d.2.Has v) (hw : Workable (Meaning.ofArgument d.1) v) :
    ((Meaning.ofArgument d.1).form.read v).Answers ∧
      ∀ args, (Meaning.ofArgument d.1).form.read v = .ok args → ∀ schema : Schema,
        (Meaning.ofArgument d.1).applies schema = true →
          (schema.refine (Meaning.ofArgument d.1).operation args).Answers := by
  rcases Declaration.argument_cases d hd hcast with ⟨hform, hprefs⟩ | hanySize |
    ⟨r, hr, htype, hmeaning⟩
  · rw [hform, hprefs]
    refine ⟨.ok _, fun args hargs schema _ => ?_⟩
    cases hargs
    exact refine_prefs_answers schema v
  · rw [hanySize]
    refine ⟨.ok _, fun args hargs schema happlies => ?_⟩
    cases hargs
    exact refine_unsafe_answers happlies v
  · rw [← hmeaning] at hw ⊢
    obtain ⟨hread, hrule⟩ := Route.works hr (htype ▸ hv) hw
    exact ⟨hread, fun args hargs schema happlies =>
      refine_answers r.kind (Route.isOf_kind r hr) happlies (hrule args hargs)⟩

lemma applyArgument_reports (schema : Schema) {a : String × Literal} (h : Sound a) :
    Reports (applyArgument field schema a) := by
  obtain ⟨name, literal⟩ := a
  obtain ⟨hdeclared, v, hvalue, hw⟩ := h
  obtain ⟨type, hlook, hfits⟩ : ∃ type, lookup? name Declaration.arguments = some type ∧
      literal.fits type = true := by
    unfold isDeclared at hdeclared
    dsimp only at hdeclared
    split at hdeclared
    · exact ⟨_, ‹_›, hdeclared⟩
    · cases hdeclared
  have hmem : (name, type) ∈ Declaration.arguments := mem_of_lookup? hlook
  have hv : type.Has v := ⟨literal, hfits, hvalue⟩
  unfold applyArgument
  simp only [literalValue_eq_ok hvalue]
  refine .bind (.ok v) fun v' hv' => ?_
  cases hv'
  cases hcast : isCast name with
  | true =>
    rw [if_pos rfl]
    obtain rfl : type = helper "Types" := Declaration.type_of_cast _ hmem hcast
    exact castSchema_reports hv
  | false =>
    rw [if_neg Bool.false_ne_true]
    obtain ⟨hread, hrefine⟩ := argument_answers hmem hcast hv hw
    refine .bind (argumentResult_reports hread) fun args hargs => ?_
    split
    · rename_i happlies
      exact .bind (argumentResult_reports
        (hrefine args (argumentResult_eq_ok hargs) schema happlies)) fun _ _ => .pure _
    · exact .error trivial

lemma refuseCasts_reports {arguments : Arguments} (h : ∀ a ∈ arguments, Sound a) :
    Reports (refuseCasts field arguments) := by
  induction arguments with
  | nil => exact .ok ()
  | cons a rest ih =>
    obtain ⟨name, literal⟩ := a
    obtain ⟨ha, hrest⟩ := List.forall_mem_cons.mp h
    obtain ⟨v, hvalue, _⟩ := ha.workable
    rw [refuseCasts]
    split
    · rw [literalValue_eq_ok hvalue]
      exact .error trivial
    · exact ih hrest

lemma applyArguments_reports (schema : Schema) {arguments : Arguments}
    (h : ∀ a ∈ arguments, Sound a) : Reports (schema.applyArguments arguments field) :=
  .bind (refuseCasts_reports fun a ha => h a (List.mem_of_mem_tail ha)) fun _ _ =>
    .foldlM (fun schema a ha => applyArgument_reports schema (h a ha)) schema

end Schema

lemma scalarSchema_reports (name : String) : Reports (scalarSchema name) := by
  unfold scalarSchema
  split
  · exact .ok _
  · exact .error trivial

lemma enumSchema_reports (type : EnumType) : Reports (enumSchema type) := by
  refine .bind (.mapM fun symbol _ => ?_) fun _ _ => .pure _
  unfold symbolText
  split <;> first | exact .ok _ | exact .error trivial

namespace Compiler

/-- The arguments of the directives on input types are sound. -/
def SoundTypes (c : Compiler) : Prop :=
  ∀ name type, c.graph.find? name = some (.input type) → ∀ a ∈ c.typeArguments type, Sound a

variable {c : Compiler} {fill : InputType → Cache → Compiled Unit} {field : String}

lemma namedSchema_reports (hfill : ∀ type cache, Reports (fill type cache).1)
    (htypes : c.SoundTypes) (name : String) (cache : Cache) :
    Reports (c.namedSchema fill field name cache).1 := by
  unfold namedSchema
  split
  · rename_i type hfind
    have harguments := htypes name type hfind
    unfold inputSchema
    dsimp only
    split
    · exact .bind (.ok ()) fun _ _ => Schema.applyArguments_reports _ harguments
    · exact .bind (hfill _ _) fun _ _ => Schema.applyArguments_reports _ harguments
  · exact enumSchema_reports _
  · exact scalarSchema_reports name

lemma refSchema_reports (field : String) (hfill : ∀ type cache, Reports (fill type cache).1)
    (htypes : c.SoundTypes) {arguments : Arguments} (harguments : ∀ a ∈ arguments, Sound a)
    (type : TypeRef) (cache : Cache) :
    Reports (c.refSchema fill field type arguments cache).1 := by
  induction type generalizing arguments with
  | named name =>
    exact .bind (namedSchema_reports hfill htypes name cache) fun base _ =>
      Schema.applyArguments_reports base harguments
  | nonNull type ih => exact ih harguments
  | list type ih =>
    refine .bind (ih fun a ha => harguments a (List.mem_of_mem_filter ha)) fun item _ => ?_
    exact Schema.applyArguments_reports _ fun a ha => harguments a (List.mem_of_mem_filter ha)

lemma fillFields_reports (hfill : ∀ type cache, Reports (fill type cache).1)
    (htypes : c.SoundTypes) (type : String) (fields : List InputValue) (cache : Cache) :
    Reports (c.fillFields fill type fields cache).1 := by
  induction fields generalizing cache with
  | nil => exact .ok ()
  | cons first rest ih =>
    rw [fillFields]
    split
    · exact ih cache
    · have hfield := refSchema_reports first.name hfill htypes
        (fun a ha => nomatch ha : ∀ a ∈ ([] : Arguments), Sound a) first.type cache
      split
      · exact ih _
      · rename_i e after heq
        rw [heq] at hfield
        exact .error (hfield e rfl)

/-- Filling the tree of a type ends with no fault, by induction on how many types may still be
under way. -/
lemma fillType_reports (htypes : c.SoundTypes) (depth : Nat) (type : InputType) (cache : Cache) :
    Reports (c.fillType depth type cache).1 := by
  induction depth generalizing type cache with
  | zero => exact .ok ()
  | succ depth ih => exact fillFields_reports ih htypes type.name type.fields _

/-- If all arguments are declared and can be worked with, those at the call and those on the input
types, a compilation gives a schema or ends with an error that is reported. -/
theorem compile_reports (c : Compiler) (arguments : Arguments)
    (harguments : ∀ a ∈ arguments, Sound a) (htypes : c.SoundTypes)
    (type : TypeRef) (field : String) (target : TreeName) (cache : Cache) :
    (∃ schema, (c.compile type arguments field target cache).1 = .ok schema) ∨
      ∃ e, (c.compile type arguments field target cache).1 = .error (.error e) := by
  have hfill : ∀ type cache, Reports (c.fill type cache).1 := fun type cache =>
    fillType_reports htypes c.graph.inputs.length type cache
  have hschema := refSchema_reports field hfill htypes harguments type cache
  refine Reports.cases ?_
  unfold compile
  split
  · exact .ok _
  · rename_i e after heq
    rw [heq] at hschema
    exact .error (hschema e rfl)

/-- Two numbers that need each other. -/
def pairGraph : TypeGraph := [
  .input ⟨"Pair", [⟨"low", .named "Int", []⟩, ⟨"high", .named "Int", []⟩],
    [⟨"validate", [("and", .list [.string "low", .string "high"])]⟩]⟩]

/-- Days of this century, in a list that is not empty. -/
def dayArguments : Arguments :=
  [("type", .enum "DATE"), ("arrayMin", .int "1"), ("dateMin", .string "2000-01-01")]

theorem compile_reports_days :
    (∃ schema, (compile ⟨pairGraph, "validate"⟩ (.list (.named "String")) dayArguments "days"
      (.arguments "Query" "events") .empty).1 = .ok schema) ∨
        ∃ e, (compile ⟨pairGraph, "validate"⟩ (.list (.named "String")) dayArguments "days"
          (.arguments "Query" "events") .empty).1 = .error (.error e) := by
  have hcast : Sound ("type", .enum "DATE") :=
    ⟨by decide, .str "DATE", rfl, .of_given nofun (by decide) (by decide)⟩
  have hmin : Sound ("arrayMin", .int "1") :=
    ⟨by decide, .int 1, rfl, .of_given nofun (by decide) (by decide)⟩
  have hday : Sound ("dateMin", .string "2000-01-01") := by
    refine ⟨by decide, .str "2000-01-01", rfl, nofun, fun _ _ f hf => ?_, nofun⟩
    obtain ⟨m, hm⟩ : ∃ m, (Value.str "2000-01-01").toMoment none = .ok m := ⟨_, rfl⟩
    cases hm.symm.trans hf
  have hand : Sound ("and", .list [.string "low", .string "high"]) :=
    ⟨by decide, .list [.str "low", .str "high"], rfl, .of_given nofun (by decide) (by decide)⟩
  refine compile_reports _ _ (fun a ha => ?_) (fun name type hfind a ha => ?_) _ _ _ _
  · simp only [dayArguments, List.mem_cons, List.not_mem_nil, or_false] at ha
    rcases ha with rfl | rfl | rfl
    · exact hcast
    · exact hmin
    · exact hday
  · cases List.mem_singleton.mp (List.mem_of_find?_eq_some hfind)
    exact List.mem_singleton.mp ha ▸ hand

/-- Values that fit the declared types are not enough: the sign of a number is chosen between
symbols, and the type of the choice has null, which is no symbol. -/
theorem not_reports_of_declared :
    ¬∀ (c : Compiler) (arguments : Arguments), (∀ a ∈ arguments, isDeclared a = true) →
      (∀ name type, c.graph.find? name = some (.input type) →
        ∀ a ∈ c.typeArguments type, isDeclared a = true) →
      ∀ (type : TypeRef) (field : String) (target : TreeName) (cache : Cache),
        (∃ schema, (c.compile type arguments field target cache).1 = .ok schema) ∨
          ∃ e, (c.compile type arguments field target cache).1 = .error (.error e) := by
  intro h
  have hfault : (compile ⟨[], "validate"⟩ (.named "Int") [("sign", .null)] "count"
      (.arguments "Query" "count") .empty).1 = .error (.fault .missingMember) := rfl
  rcases h ⟨[], "validate"⟩ [("sign", .null)] (by decide) (fun _ _ hfind => nomatch hfind)
    (.named "Int") "count" (.arguments "Query" "count") .empty with ⟨schema, hok⟩ | ⟨e, herror⟩
  · cases hfault.symm.trans hok
  · cases hfault.symm.trans herror

end Compiler

end InputGuard

import InputGuard.Directive.Compile
import InputGuard.Proofs.Lookup
import InputGuard.Proofs.Outcomes

/-!
# Refinements

All that an operation can make of a schema, and with it an argument of a directive that is no cast.
-/

namespace InputGuard

namespace Schema

/-- A schema and what an operation may make of it: other settings, one more rule, another size of
numbers or another format of dates. -/
inductive Refines : Schema → Schema → Prop
  | settings (schema : Schema) (s : Settings) : Refines schema (schema.withSettings s)
  | string (s : Settings) (rules : List StringRule) (rule : StringRule) :
    Refines (.string s rules) (.string s (rules ++ [rule]))
  | number (s : Settings) (rules : List NumberRule) (anySize : Bool) (rule : NumberRule) :
    Refines (.number s rules anySize) (.number s (rules ++ [rule]) anySize)
  | anySize (s : Settings) (rules : List NumberRule) (anySize other : Bool) :
    Refines (.number s rules anySize) (.number s rules other)
  | date (s : Settings) (rules : List DateRule) (format : Option DateFormat) (rule : DateRule) :
    Refines (.date s rules format) (.date s (rules ++ [rule]) format)
  | format (s : Settings) (rules : List DateRule) (format other : Option DateFormat) :
    Refines (.date s rules format) (.date s rules other)
  | array (s : Settings) (rules : List ArrayRule) (rule : ArrayRule) :
    Refines (.array s rules) (.array s (rules ++ [rule]))
  | arrayOf (s : Settings) (rules : List ArrayRule) (item : Schema) (rule : ArrayRule) :
    Refines (.arrayOf s rules item) (.arrayOf s (rules ++ [rule]) item)
  | object (s : Settings) (rules : List ObjectRule) (tree : TreeName) (rule : ObjectRule) :
    Refines (.object s rules tree) (.object s (rules ++ [rule]) tree)

variable {schema s : Schema}

lemma Refines.kind_eq (h : schema.Refines s) : s.kind = schema.kind := by
  cases h with
  | settings => cases schema <;> rfl
  | _ => rfl

/-- Every operation refines. -/
theorem refines_of_refine {operation : String} {args : List Value}
    (h : schema.refine operation args = .ok (some s)) : schema.Refines s := by
  unfold refine at h
  split at h
  · obtain ⟨_, _, hpure⟩ := bind_eq_ok.mp h
    obtain ⟨_, _, hpure⟩ := bind_eq_ok.mp hpure
    rw [← Option.some.inj (pure_eq_ok.mp hpure)]
    exact .settings _ _
  · rw [← Option.some.inj (Except.ok.inj h)]
    exact .settings _ _
  · cases schema with
    | any settings | boolean settings => cases h
    | string settings rules =>
      obtain ⟨rule, _, hpure⟩ := bind_eq_ok.mp h
      obtain ⟨rule, _, rfl⟩ := Option.map_eq_some_iff.mp (pure_eq_ok.mp hpure)
      exact .string settings rules rule
    | number settings rules anySize =>
      simp only at h
      split at h <;> obtain ⟨_, _, hpure⟩ := bind_eq_ok.mp h <;> cases pure_eq_ok.mp hpure
      · exact .anySize ..
      · exact .number ..
    | date settings rules format =>
      simp only at h
      split at h <;> obtain ⟨_, _, hpure⟩ := bind_eq_ok.mp h <;> cases pure_eq_ok.mp hpure
      · exact .format ..
      · exact .date ..
    | array settings rules =>
      simp only at h
      split at h
      · obtain ⟨_, _, hrefuse⟩ := bind_eq_ok.mp h
        cases hrefuse
      · obtain ⟨rule, _, hpure⟩ := bind_eq_ok.mp h
        cases pure_eq_ok.mp hpure
        exact .array settings rules rule
    | arrayOf settings rules item =>
      simp only at h
      split at h
      · obtain ⟨_, _, hrefuse⟩ := bind_eq_ok.mp h
        cases hrefuse
      · obtain ⟨rule, _, hpure⟩ := bind_eq_ok.mp h
        cases pure_eq_ok.mp hpure
        exact .arrayOf settings rules item rule
    | object settings rules tree =>
      obtain ⟨rule, _, hpure⟩ := bind_eq_ok.mp h
      cases pure_eq_ok.mp hpure
      exact .object settings rules tree rule

variable {field argument : String} {α : Type}

lemma exists_mem_casts {v : Value} (h : castSchema v = .ok s) : ∃ name, (name, s) ∈ casts := by
  unfold castSchema at h
  split at h
  · split at h
    · rename_i schema hlook
      rw [← Except.ok.inj h]
      exact ⟨_, mem_of_lookup? hlook⟩
    · cases h
  · split at h <;> cases h

lemma kind_castSchema {v : Value} (h : castSchema v = .ok s) : s.kind = .date := by
  have hcasts : ∀ c ∈ casts, c.2.kind = .date := by decide
  obtain ⟨_, hmem⟩ := exists_mem_casts h
  exact hcasts _ hmem

lemma argumentResult_eq_ok {x : Defined α} {a : α} (h : argumentResult argument field x = .ok a) :
    x = .ok a := by
  unfold argumentResult at h
  split at h
  · exact congrArg Except.ok (Except.ok.inj h)
  all_goals cases h

/-- An argument casts, or it refines the schema if it does not leave it as it is. -/
lemma applyArgument_cases {argument : String × Literal}
    (h : schema.applyArgument field argument = .ok s) :
    (isCast argument.1 = true ∧ ∃ v, castSchema v = .ok s) ∨
      isCast argument.1 = false ∧ (s = schema ∨ schema.Refines s) := by
  obtain ⟨v, _, hrest⟩ := bind_eq_ok.mp h
  split at hrest
  · rename_i hcast
    exact .inl ⟨hcast, v, hrest⟩
  · rename_i hcast
    obtain ⟨args, _, happly⟩ := bind_eq_ok.mp hrest
    split at happly
    · obtain ⟨refined, hrefined, hpure⟩ := bind_eq_ok.mp happly
      refine .inr ⟨by simpa using hcast, ?_⟩
      rw [← pure_eq_ok.mp hpure]
      cases refined with
      | none => exact .inl rfl
      | some t => exact .inr (refines_of_refine (argumentResult_eq_ok hrefined))
    · cases happly

/-- What each of the arguments keeps, all of them keep. -/
lemma applyArguments_keeps {arguments : Arguments} (holds : Schema → Prop)
    (hkeep : ∀ t, ∀ a ∈ arguments, ∀ u, holds t → t.applyArgument field a = .ok u → holds u)
    (hschema : holds schema) (h : schema.applyArguments arguments field = .ok s) : holds s := by
  obtain ⟨_, -, hfold⟩ := bind_eq_ok.mp h
  exact foldlM_keeps holds hkeep hschema hfold

end Schema

end InputGuard

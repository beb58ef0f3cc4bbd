import InputGuard.Directive.Argument
import InputGuard.Proofs.Outcomes

/-!
# Operations that answer

An operation on a schema may be refused, which is an error that is reported, or end with a fault,
which is not. An operation that makes a rule is for schemas of one kind; there it answers if the
rule's arguments do.
-/

namespace InputGuard

namespace Defined

/-- Whether a definition that fails is refused. That a pattern cannot be read is a fault, but one
that is reported like a refusal. -/
def IsRefusal : DefinitionFailure → Prop
  | .error _ => True
  | .fault f => f = .badPattern

/-- A definition answers if it does not end with a fault. -/
def Answers {α : Type} (x : Defined α) : Prop := FailsOnly IsRefusal x

lemma Answers.refuse {α : Type} (e : DefinitionError) : Answers (Defined.refuse e : Defined α) :=
  .error trivial

end Defined

open Defined

lemma sizeLimit_answers (rule : String) (v : Value) : (sizeLimit rule v).Answers := by
  unfold sizeLimit
  split
  · split
    · exact .ok _
    · exact Answers.refuse _
  · exact Answers.refuse _

lemma numberArgument_answers (rule : String) (v : Value) : (numberArgument rule v).Answers := by
  cases v <;> first | exact .ok _ | exact Answers.refuse _

namespace NumberRule

lemma multiple_answers (v : Value) : (ofOperation "multiple" [v]).Answers := by
  refine (numberArgument_answers "multiple" v).bind fun base _ => ?_
  split
  · exact Answers.refuse _
  · exact .pure _

lemma precision_answers (v : Value) : (ofOperation "precision" [v]).Answers := by
  refine .bind (.ok v) fun w _ => ?_
  split
  · split
    · exact .pure _
    · exact Answers.refuse _
  · exact Answers.refuse _

lemma sign_answers (v : Value) : (ofOperation "sign" [v]).Answers := by
  refine .bind (.ok v) fun w _ => ?_
  split <;> first | exact .pure _ | exact Answers.refuse _

end NumberRule

namespace StringRule

lemma letterCaseOf_answers (v : Value) : (letterCaseOf v).Answers := by
  unfold letterCaseOf
  split <;> first | exact .ok _ | exact Answers.refuse _

lemma normalizeOf_answers (s : String) : (normalizeOf (.str s)).Answers := by
  unfold normalizeOf
  dsimp only
  split <;> first | exact .ok _ | exact Answers.refuse _

lemma sizeOf_answers (test : SizeTest) (limit encoding : Value) :
    (sizeOf test [limit, encoding]).Answers := by
  have hlimit : (lengthLimit test limit).Answers := by
    unfold lengthLimit
    split
    · exact .ok _
    · exact (sizeLimit_answers _ _).map
  exact hlimit.bind fun _ _ => .pure _

/-- A separator for the parts of a GUID is a flag or a text. -/
lemma guidSeparator_answers {v : Value} (h : v = .null ∨ (∃ b, v = .bool b) ∨ ∃ s, v = .str s) :
    (guidSeparator v).Answers := by
  rcases h with rfl | ⟨b, rfl⟩ | ⟨s, rfl⟩
  · exact .ok _
  · cases b <;> exact .ok _
  · exact .ok _

lemma guidVersion_answers {v : Value} (h : v.canBeKey = true) : (guidVersion v).Answers := by
  unfold guidVersion
  split
  · split <;> first | exact .ok _ | exact Answers.refuse _
  · rw [if_pos h]
    exact Answers.refuse _

lemma addressVersion_answers (v : Value) : (addressVersion v).Answers := by
  unfold addressVersion
  split
  · split <;> first | exact .ok _ | exact Answers.refuse _
  · exact Answers.refuse _

lemma cidrOf_answers (v : Value) : (cidrOf v).Answers := by
  unfold cidrOf
  split
  · exact .ok _
  · split
    · split <;> first | exact .ok _ | exact Answers.refuse _
    · exact Answers.refuse _

end StringRule

namespace ObjectRule

lemma peerNames_answers (rule : String) (args : List Value) : (peerNames rule args).Answers := by
  unfold peerNames
  split
  · exact Answers.refuse _
  · refine .mapM fun v _ => ?_
    cases v <;> first | exact .ok _ | exact Answers.refuse _

lemma keyAndPeers_answers (rule : String) (key : Value) (names : List Value) :
    (keyAndPeers rule (key :: names)).Answers :=
  (peerNames_answers rule names).bind fun _ _ => .pure _

end ObjectRule

lemma ArrayRule.sortOrderOf_answers (v : Value) : (sortOrderOf v).Answers := by
  unfold sortOrderOf
  split
  · exact .ok _
  · split
    · split <;> first | exact .ok _ | exact Answers.refuse _
    · exact Answers.refuse _

def Kind.all : List Kind := [any, string, number, date, boolean, array, object]

/-- Whether an operation that makes a rule answers for schemas of a kind. -/
def Kind.RuleAnswers (operation : String) (args : List Value) : Kind → Prop
  | any | boolean => False
  | string => (StringRule.ofOperation operation args).Answers
  | number => (NumberRule.ofOperation operation args).Answers
  | date =>
    match DateFormat.ofOperation? operation args with
    | some format => format.Answers
    | none => (DateRule.ofOperation operation args).Answers
  | array => (ArrayRule.ofOperation operation args).Answers
  | object => (ObjectRule.ofOperation operation args).Answers

lemma timestamp_answers (v : Value) : Kind.date.RuleAnswers "timestamp" [v] := by
  refine FailsOnly.bind (.ok v) fun w _ => ?_
  split
  · split <;> first | exact .pure _ | exact Answers.refuse _
  · exact Answers.refuse _

namespace Meaning

/-- Whether an operation can be done to schemas of a kind. -/
def appliesTo (m : Meaning) (kind : Kind) : Bool :=
  kind.operations.contains m.operation &&
    (match m.kinds with
      | some kinds => kinds.contains kind
      | none => true)

lemma kind_of_applies {m : Meaning} {kind : Kind} {schema : Schema}
    (honly : Kind.all.filter m.appliesTo = [kind]) (h : m.applies schema = true) :
    schema.kind = kind := by
  have hall : ∀ k : Kind, k ∈ Kind.all := by
    intro k
    cases k <;> decide
  have hmem : schema.kind ∈ Kind.all.filter m.appliesTo := List.mem_filter.mpr ⟨hall _, h⟩
  rw [honly] at hmem
  exact List.mem_singleton.mp hmem

/-- Whether an operation makes rules, and for schemas of one kind only. -/
def isOf (m : Meaning) (kind : Kind) : Bool :=
  !(["prefs", "valid", "items", "unsafe"].contains m.operation) &&
    Kind.all.filter m.appliesTo == [kind]

end Meaning

lemma refine_answers {m : Meaning} {schema : Schema} {args : List Value} (kind : Kind)
    (hof : m.isOf kind = true) (happlies : m.applies schema = true)
    (h : kind.RuleAnswers m.operation args) : (schema.refine m.operation args).Answers := by
  simp only [Meaning.isOf, Bool.and_eq_true, beq_iff_eq] at hof
  obtain rfl := Meaning.kind_of_applies hof.2 happlies
  obtain ⟨hprefs, hvalid, hitems, hanySize⟩ : m.operation ≠ "prefs" ∧ m.operation ≠ "valid" ∧
      m.operation ≠ "items" ∧ m.operation ≠ "unsafe" := by simpa using hof.1
  unfold Schema.refine
  split
  · rename_i heq
    exact absurd heq hprefs
  · rename_i heq
    exact absurd heq hvalid
  · cases schema with
    | any | boolean => exact h.elim
    | string | object => exact h.bind fun _ _ => .pure _
    | number =>
      dsimp only
      rw [if_neg hanySize]
      exact h.bind fun _ _ => .pure _
    | date =>
      simp only [Schema.kind, Kind.RuleAnswers] at h
      cases hformat : DateFormat.ofOperation? m.operation args with
      | some format =>
        simp only [hformat] at h ⊢
        exact h.bind fun _ _ => .pure _
      | none =>
        simp only [hformat] at h ⊢
        exact h.bind fun _ _ => .pure _
    | array | arrayOf =>
      dsimp only
      rw [if_neg hitems]
      exact h.bind fun _ _ => .pure _

lemma refine_prefs_answers (schema : Schema) (v : Value) : (schema.refine "prefs" [v]).Answers := by
  have hprefs : ∀ w, (Schema.preferencesOf w).Answers := by
    intro w
    unfold Schema.preferencesOf
    split <;> first | exact .ok _ | exact Answers.refuse _
  exact FailsOnly.bind (.ok v) fun w _ => (hprefs w).bind fun _ _ => .pure _

lemma refine_unsafe_answers {schema : Schema}
    (happlies : (Meaning.plain "unsafe" .asIs).applies schema = true) (v : Value) :
    (schema.refine "unsafe" [v]).Answers := by
  have hkind : schema.kind = .number := Meaning.kind_of_applies (by decide) happlies
  cases schema with
  | number => exact .ok _
  | _ => cases hkind

end InputGuard

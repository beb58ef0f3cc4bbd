import InputGuard.Proofs.Refinements
import InputGuard.Proofs.StrictChecks

/-!
# The order of rules

Where nothing may be converted, a rule passes on the value that it is given or refuses it. So the
rules of a schema are conditions on one value. Their order does not matter, and a further rule can
only refuse more.
-/

namespace InputGuard

/-- Steps that pass on what they are given succeed together if and only if each of them does. -/
lemma foldlM_eq_ok_iff {ε α β : Type} {step : α → β → Except ε α} {items : List β} {a b : α}
    (hstep : ∀ a item b, step a item = .ok b → b = a) :
    items.foldlM step a = .ok b ↔ b = a ∧ ∀ item ∈ items, step a item = .ok a := by
  induction items with
  | nil =>
    rw [List.foldlM_nil, pure_eq_ok]
    simp [eq_comm]
  | cons item rest ih =>
    rw [List.foldlM_cons, List.forall_mem_cons]
    constructor
    · intro h
      obtain ⟨c, hc, hrest⟩ := bind_eq_ok.mp h
      obtain rfl := hstep a item c hc
      obtain ⟨hb, hall⟩ := ih.mp hrest
      exact ⟨hb, hc, hall⟩
    · rintro ⟨hb, hitem, hall⟩
      exact bind_eq_ok.mpr ⟨a, hitem, ih.mpr ⟨hb, hall⟩⟩

lemma foldlM_of_subset {ε α β : Type} {step : α → β → Except ε α} {items more : List β} {a b : α}
    (hstep : ∀ a item b, step a item = .ok b → b = a) (hsub : items ⊆ more)
    (h : more.foldlM step a = .ok b) : items.foldlM step a = .ok b := by
  rw [foldlM_eq_ok_iff hstep] at h ⊢
  exact ⟨h.1, fun item hi => h.2 item (hsub hi)⟩

lemma DateRule.check_eq {visit : Visit} (m : Moment) (rule : DateRule) (m' : Moment)
    (h : rule.check visit m = .ok m') : m' = m := by
  simp only [check] at h
  split_ifs at h
  · exact (Except.ok.inj h).symm
  · simp at h

namespace Schema

/-- Two schemas of one kind that are equal in all but their rules, and whose lists of rules are
related. -/
inductive EqualBut (related : ∀ {ρ : Type}, List ρ → List ρ → Prop) : Schema → Schema → Prop
  | any (settings : Settings) : EqualBut related (.any settings) (.any settings)
  | string {settings : Settings} {rules rules' : List StringRule} (h : related rules rules') :
    EqualBut related (.string settings rules) (.string settings rules')
  | number {settings : Settings} {rules rules' : List NumberRule} {anySize : Bool}
      (h : related rules rules') :
    EqualBut related (.number settings rules anySize) (.number settings rules' anySize)
  | date {settings : Settings} {rules rules' : List DateRule} {format : Option DateFormat}
      (h : related rules rules') :
    EqualBut related (.date settings rules format) (.date settings rules' format)
  | boolean (settings : Settings) : EqualBut related (.boolean settings) (.boolean settings)
  | array {settings : Settings} {rules rules' : List ArrayRule} (h : related rules rules') :
    EqualBut related (.array settings rules) (.array settings rules')
  | arrayOf {settings : Settings} {rules rules' : List ArrayRule} {item : Schema}
      (h : related rules rules') :
    EqualBut related (.arrayOf settings rules item) (.arrayOf settings rules' item)
  | object {settings : Settings} {rules rules' : List ObjectRule} {tree : TreeName}
      (h : related rules rules') :
    EqualBut related (.object settings rules tree) (.object settings rules' tree)

/-- The second schema has the rules of the first one in another order. -/
abbrev Reordered : Schema → Schema → Prop := EqualBut fun rules rules' => rules.Perm rules'

/-- The second schema has the rules of the first one, in any order and perhaps among others. -/
abbrev MoreRules : Schema → Schema → Prop := EqualBut fun rules rules' => rules ⊆ rules'

variable {schema other : Schema}

lemma EqualBut.mono {related related' : ∀ {ρ : Type}, List ρ → List ρ → Prop}
    (himp : ∀ {ρ : Type} {rules rules' : List ρ}, related rules rules' → related' rules rules')
    (h : EqualBut related schema other) : EqualBut related' schema other := by
  cases h with
  | any settings => exact .any settings
  | boolean settings => exact .boolean settings
  | string h => exact .string (himp h)
  | number h => exact .number (himp h)
  | date h => exact .date (himp h)
  | array h => exact .array (himp h)
  | arrayOf h => exact .arrayOf (himp h)
  | object h => exact .object (himp h)

lemma Reordered.moreRules (h : schema.Reordered other) : schema.MoreRules other :=
  h.mono fun hperm => hperm.subset

lemma Reordered.symm (h : schema.Reordered other) : other.Reordered schema := by
  cases h with
  | any settings => exact .any settings
  | boolean settings => exact .boolean settings
  | string h => exact .string h.symm
  | number h => exact .number h.symm
  | date h => exact .date h.symm
  | array h => exact .array h.symm
  | arrayOf h => exact .arrayOf h.symm
  | object h => exact .object h.symm

lemma ruleNames_withSettings (schema : Schema) (s : Settings) :
    (schema.withSettings s).ruleNames = schema.ruleNames := by
  cases schema <;> rfl

/-- An operation leaves the rules as they are or adds one to them, and nothing else. -/
lemma moreRules_of_refine {operation : String} {args : List Value}
    (h : schema.refine operation args = .ok (some other))
    (hrules : other.ruleNames ≠ schema.ruleNames) : schema.MoreRules other := by
  cases refines_of_refine h with
  | settings => exact absurd (ruleNames_withSettings schema _) hrules
  | anySize | format => exact absurd rfl hrules
  | string => exact .string (List.subset_append_left _ _)
  | number => exact .number (List.subset_append_left _ _)
  | date => exact .date (List.subset_append_left _ _)
  | array => exact .array (List.subset_append_left _ _)
  | arrayOf => exact .arrayOf (List.subset_append_left _ _)
  | object => exact .object (List.subset_append_left _ _)

variable {store : Store} {visit : Visit} {v w : Value}

lemma finish_of_moreRules (hv : visit.prefs.convert = false) (hmore : schema.MoreRules other)
    (h : other.finish visit v = .ok w) : schema.finish visit v = .ok w := by
  cases hmore with
  | any settings | boolean settings => exact h
  | string hsub =>
    cases finish_eq_ok_iff.mp h with
    | string hallowed hrules =>
      have hfewer := foldlM_of_subset (StringRule.check_eq hv) hsub hrules
      exact finish_eq_ok_iff.mpr (.string hallowed hfewer)
  | number hsub =>
    cases finish_eq_ok_iff.mp h with
    | number hx hallowed hrules =>
      have hfewer := foldlM_of_subset (NumberRule.check_eq hv) hsub hrules
      exact finish_eq_ok_iff.mpr (.number hx hallowed hfewer)
  | date hsub =>
    cases finish_eq_ok_iff.mp h with
    | date hm hallowed hrules =>
      have hfewer := foldlM_of_subset DateRule.check_eq hsub hrules
      exact finish_eq_ok_iff.mpr (.date hm hallowed hfewer)
  | array hsub =>
    cases finish_eq_ok_iff.mp h with
    | array hallowed hrules =>
      have hfewer := foldlM_of_subset (ArrayRule.check_eq hv) hsub hrules
      exact finish_eq_ok_iff.mpr (.array hallowed hfewer)
  | arrayOf hsub =>
    cases finish_eq_ok_iff.mp h with
    | arrayOf hallowed hrules =>
      have hfewer := foldlM_of_subset (ArrayRule.check_eq hv) hsub hrules
      exact finish_eq_ok_iff.mpr (.arrayOf hallowed hfewer)
  | object hsub =>
    cases finish_eq_ok_iff.mp h with
    | object hallowed hrules =>
      have hfewer := foldlM_of_subset ObjectRule.check_eq hsub hrules
      exact finish_eq_ok_iff.mpr (.object hallowed hfewer)

lemma EqualBut.settings_eq {related : ∀ {ρ : Type}, List ρ → List ρ → Prop}
    (h : EqualBut related schema other) : other.settings = schema.settings := by
  cases h <;> rfl

lemma EqualBut.item?_eq {related : ∀ {ρ : Type}, List ρ → List ρ → Prop}
    (h : EqualBut related schema other) : other.item? = schema.item? := by
  cases h <;> rfl

lemma EqualBut.tree?_eq {related : ∀ {ρ : Type}, List ρ → List ρ → Prop}
    (h : EqualBut related schema other) : other.tree? = schema.tree? := by
  cases h <;> rfl

/-- Parts of a value are checked alike, since neither the items nor the tree differ. -/
lemma validate_of_moreRules (hv : visit.prefs.convert = false) (hs : schema.converts = false)
    (hmore : schema.MoreRules other) (h : other.validate store visit v = .ok w) :
    schema.validate store visit v = .ok w := by
  have hunder := Visit.convert_under hv hs
  cases v with
  | null => exact h
  | list items =>
    rw [validate, hmore.settings_eq, hmore.item?_eq] at h
    rw [validate]
    cases hitem : schema.item? with
    | none =>
      rw [hitem] at h
      exact finish_of_moreRules hunder hmore h
    | some item =>
      rw [hitem] at h
      obtain ⟨items', hitems, hfinish⟩ := bind_eq_ok.mp h
      exact bind_eq_ok.mpr ⟨items', hitems, finish_of_moreRules hunder hmore hfinish⟩
  | object entries =>
    rw [validate, hmore.settings_eq, hmore.tree?_eq] at h
    rw [validate]
    cases htree : schema.tree? with
    | none =>
      rw [htree] at h
      exact finish_of_moreRules hunder hmore h
    | some tree =>
      rw [htree] at h
      obtain ⟨entries', hentries, hfinish⟩ := bind_eq_ok.mp h
      exact bind_eq_ok.mpr ⟨entries', hentries, finish_of_moreRules hunder hmore hfinish⟩
  | _ =>
    rw [validate, hmore.settings_eq] at h
    · rw [validate]
      · exact finish_of_moreRules hunder hmore h
      all_goals nofun
    all_goals nofun

end Schema

/-- Without conversion, schemas with the same rules in any order accept the same values with the
same results, and a schema with more rules, as an operation makes one, accepts no other values and
gives no other results. It is enough that the schema does not ask for conversion itself. -/
theorem attempt_reordered_rules (store : Store) (schema : Schema) (hs : schema.converts = false)
    (allowUnknown : Bool) (env : Environment) (v w : Value) :
    let accepts (s : Schema) : Prop := attempt store ⟨false, allowUnknown⟩ env s v = .ok w
    (∀ other, schema.Reordered other → (accepts schema ↔ accepts other)) ∧
      (∀ other, schema.MoreRules other → accepts other → accepts schema) ∧
      ∀ operation args other, schema.refine operation args = .ok (some other) →
        other.ruleNames ≠ schema.ruleNames → accepts other → accepts schema := by
  intro accepts
  have hvisit : (⟨[], ⟨false, allowUnknown⟩, env⟩ : Visit).prefs.convert = false := rfl
  have hmore : ∀ s other : Schema, s.converts = false → s.MoreRules other →
      accepts other → accepts s := fun _ _ => Schema.validate_of_moreRules hvisit
  refine ⟨fun other h => ⟨?_, ?_⟩, fun other => hmore schema other hs, ?_⟩
  · have hother : other.converts = false := by
      rw [Schema.converts, Schema.overrides, h.settings_eq]
      exact hs
    exact hmore other schema hother h.symm.moreRules
  · exact hmore schema other hs h.moreRules
  · intro operation args other hrefine hrules
    exact hmore schema other hs (Schema.moreRules_of_refine hrefine hrules)

def labelsSchema (rules : List ArrayRule) : Schema :=
  .arrayOf .plain rules (.string .plain [.trim])

theorem attempt_reordered_labels :
    let env : Environment := .epoch
    let labels : Value := .list [.str "a", .str "b"]
    let ascending : ArrayRule := .sort .ascending .whole
    (labelsSchema [ascending, .unique .whole]).converts = false ∧
      (attempt .empty ⟨false, true⟩ env (labelsSchema [ascending, .unique .whole]) labels =
          .ok labels ↔
        attempt .empty ⟨false, true⟩ env (labelsSchema [.unique .whole, ascending]) labels =
          .ok labels) ∧
      attempt .empty ⟨false, true⟩ env (labelsSchema [ascending, .unique .whole]) labels =
        .ok labels := by
  intro env labels ascending
  have h := attempt_reordered_rules .empty (labelsSchema [ascending, .unique .whole]) rfl true env
    labels labels
  have hswap : (labelsSchema [ascending, .unique .whole]).Reordered
      (labelsSchema [.unique .whole, ascending]) := .arrayOf (.swap _ _ _)
  refine ⟨rfl, h.1 _ hswap, ?_⟩
  -- A limit on the number of labels is a further rule.
  exact h.2.2 "max" [.int 3] (labelsSchema [ascending, .unique .whole, .size .max 3]) rfl
    (by decide) rfl

end InputGuard

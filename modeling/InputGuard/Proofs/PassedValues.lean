import InputGuard.Proofs.Outcomes

/-!
# Values that pass

The parts of a value come first, and then the value itself. It passes in one way for each kind of
schema: it is taken for a value of the kind, this is among the allowed ones, and the rules pass it on
one after the other.
-/

namespace InputGuard

namespace Schema

/-- What a value whose parts have been checked is passed on as. -/
inductive Passes (visit : Visit) : Schema → Value → Value → Prop
  | any {settings : Settings} {v : Value} (hallowed : settings.permit visit v = .ok ()) :
    Passes visit (.any settings) v v
  | boolean {settings : Settings} {v : Value} {b : Bool} (hb : v.toBool visit = .ok b)
      (hallowed : settings.permit visit (.bool b) = .ok ()) :
    Passes visit (.boolean settings) v (.bool b)
  | string {settings : Settings} {rules : List StringRule} {s t : String}
      (hallowed : settings.permit visit (.str s) = .ok ())
      (hrules : rules.foldlM (fun s rule => rule.check visit s) s = .ok t) :
    Passes visit (.string settings rules) (.str s) (.str t)
  | number {settings : Settings} {rules : List NumberRule} {anySize : Bool} {v : Value}
      {x y : Number} (hx : v.toNumber visit anySize = .ok x)
      (hallowed : settings.permit visit (.number x) = .ok ())
      (hrules : rules.foldlM (fun x rule => rule.check visit x) x = .ok y) :
    Passes visit (.number settings rules anySize) v (.number y)
  | date {settings : Settings} {rules : List DateRule} {format : Option DateFormat} {v : Value}
      {m n : Moment} (hm : v.toDate visit format = .ok m)
      (hallowed : settings.permit visit (.moment m) = .ok ())
      (hrules : rules.foldlM (fun m rule => rule.check visit m) m = .ok n) :
    Passes visit (.date settings rules format) v (.moment n)
  | array {settings : Settings} {rules : List ArrayRule} {items items' : List Value}
      (hallowed : settings.permit visit (.list items) = .ok ())
      (hrules : rules.foldlM (fun items rule => rule.check visit items) items = .ok items') :
    Passes visit (.array settings rules) (.list items) (.list items')
  | arrayOf {settings : Settings} {rules : List ArrayRule} {item : Schema}
      {items items' : List Value} (hallowed : settings.permit visit (.list items) = .ok ())
      (hrules : rules.foldlM (fun items rule => rule.check visit items) items = .ok items') :
    Passes visit (.arrayOf settings rules item) (.list items) (.list items')
  | object {settings : Settings} {rules : List ObjectRule} {tree : TreeName}
      {entries entries' : Entries} (hallowed : settings.permit visit (.object entries) = .ok ())
      (hrules : rules.foldlM (fun entries rule => rule.check visit entries) entries =
        .ok entries') :
    Passes visit (.object settings rules tree) (.object entries) (.object entries')

variable {visit : Visit} {settings : Settings} {v w : Value}

/-- Rules come after the allowed values. -/
lemma permit_rules_eq_ok {α ρ : Type} {u : Value} {f : α → Value} {check : α → ρ → Checked α}
    {rules : List ρ} {a : α} :
    (do settings.permit visit u; return f (← rules.foldlM check a) : Checked Value) = .ok w ↔
      settings.permit visit u = .ok () ∧ ∃ b, rules.foldlM check a = .ok b ∧ f b = w := by
  constructor
  · intro h
    obtain ⟨_, hallowed, hrest⟩ := bind_eq_ok.mp h
    obtain ⟨b, hrules, hpure⟩ := bind_eq_ok.mp hrest
    exact ⟨hallowed, b, hrules, pure_eq_ok.mp hpure⟩
  · rintro ⟨hallowed, b, hrules, rfl⟩
    exact bind_eq_ok.mpr ⟨(), hallowed, bind_eq_ok.mpr ⟨b, hrules, rfl⟩⟩

lemma passes_of_finish {schema : Schema} (h : schema.finish visit v = .ok w) :
    schema.Passes visit v w := by
  cases schema with
  | any settings =>
    obtain ⟨_, hallowed, hpure⟩ := bind_eq_ok.mp h
    exact pure_eq_ok.mp hpure ▸ .any hallowed
  | boolean settings =>
    obtain ⟨b, hb, hrest⟩ := bind_eq_ok.mp h
    obtain ⟨_, hallowed, hpure⟩ := bind_eq_ok.mp hrest
    exact pure_eq_ok.mp hpure ▸ .boolean hb hallowed
  | string settings rules =>
    cases v with
    | str s =>
      obtain ⟨hallowed, t, hrules, rfl⟩ := permit_rules_eq_ok.mp h
      exact .string hallowed hrules
    | _ => cases h
  | number settings rules anySize =>
    obtain ⟨x, hx, hrest⟩ := bind_eq_ok.mp h
    obtain ⟨hallowed, y, hrules, rfl⟩ := permit_rules_eq_ok.mp hrest
    exact .number hx hallowed hrules
  | date settings rules format =>
    obtain ⟨m, hm, hrest⟩ := bind_eq_ok.mp h
    obtain ⟨hallowed, n, hrules, rfl⟩ := permit_rules_eq_ok.mp hrest
    exact .date hm hallowed hrules
  | array settings rules =>
    cases v with
    | list items =>
      obtain ⟨hallowed, items', hrules, rfl⟩ := permit_rules_eq_ok.mp h
      exact .array hallowed hrules
    | _ => cases h
  | arrayOf settings rules item =>
    cases v with
    | list items =>
      obtain ⟨hallowed, items', hrules, rfl⟩ := permit_rules_eq_ok.mp h
      exact .arrayOf hallowed hrules
    | _ => cases h
  | object settings rules tree =>
    cases v with
    | object entries =>
      obtain ⟨hallowed, entries', hrules, rfl⟩ := permit_rules_eq_ok.mp h
      exact .object hallowed hrules
    | _ => cases h

lemma Passes.finish_eq_ok {schema : Schema} (h : schema.Passes visit v w) :
    schema.finish visit v = .ok w := by
  cases h with
  | any hallowed => exact bind_eq_ok.mpr ⟨(), hallowed, rfl⟩
  | boolean hb hallowed => exact bind_eq_ok.mpr ⟨_, hb, bind_eq_ok.mpr ⟨(), hallowed, rfl⟩⟩
  | number hx hallowed hrules =>
    exact bind_eq_ok.mpr ⟨_, hx, permit_rules_eq_ok.mpr ⟨hallowed, _, hrules, rfl⟩⟩
  | date hm hallowed hrules =>
    exact bind_eq_ok.mpr ⟨_, hm, permit_rules_eq_ok.mpr ⟨hallowed, _, hrules, rfl⟩⟩
  | string hallowed hrules | array hallowed hrules | arrayOf hallowed hrules
  | object hallowed hrules =>
    exact permit_rules_eq_ok.mpr ⟨hallowed, _, hrules, rfl⟩

/-- A value passes the last step of its check in just the ways of its kind of schema. -/
theorem finish_eq_ok_iff {schema : Schema} :
    schema.finish visit v = .ok w ↔ schema.Passes visit v w :=
  ⟨passes_of_finish, Passes.finish_eq_ok⟩

variable {store : Store}

lemma validateItems_cons_eq_ok {item : Schema} {i : Nat} {rest items : List Value} :
    validateItems store visit item i (v :: rest) = .ok items ↔
      ∃ w ws, item.validate store (visit.down (.index i)) v = .ok w ∧
        validateItems store visit item (i + 1) rest = .ok ws ∧ w :: ws = items := by
  rw [validateItems]
  constructor
  · intro h
    obtain ⟨w, hw, hrest⟩ := bind_eq_ok.mp h
    obtain ⟨ws, hws, hpure⟩ := bind_eq_ok.mp hrest
    exact ⟨w, ws, hw, hws, pure_eq_ok.mp hpure⟩
  · rintro ⟨w, ws, hw, hws, rfl⟩
    exact bind_eq_ok.mpr ⟨w, hw, bind_eq_ok.mpr ⟨ws, hws, rfl⟩⟩

/-- An entry passes its schema, or it has none and unknown keys are allowed. -/
lemma validateEntry_eq_ok_iff {tree : Tree} {key : String} :
    validateEntry store visit tree key v = .ok w ↔
      (∃ schema, lookup? key tree = some schema ∧
        schema.validate store (visit.down (.key key)) v = .ok w) ∨
      (lookup? key tree = none ∧ visit.prefs.allowUnknown = true ∧ w = v) := by
  unfold validateEntry
  cases hlook : lookup? key tree with
  | some schema => simp
  | none =>
    dsimp only
    split
    · rename_i hallow
      simp [hallow, eq_comm]
    · rename_i hallow
      refine iff_of_false nofun ?_
      rintro (⟨schema, hnone, -⟩ | ⟨-, hallow', -⟩)
      · cases hnone
      · exact hallow hallow'

end Schema

end InputGuard

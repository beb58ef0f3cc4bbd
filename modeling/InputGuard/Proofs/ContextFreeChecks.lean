import InputGuard.Proofs.PlacedIssues

/-!
# Checks without context

A schema does the same to a value wherever the value stands. Below a path, a check has the result
that it has on its own, and its issues are the same ones, further down. So the outcome of an object
or a list follows from those of its parts, each checked on its own: the first part that fails decides
and, if none does, the object or list itself is checked with the results.
-/

namespace InputGuard

/-- The context of an issue without what tells its place. -/
def Detail.unplaced (d : Detail) : Entries :=
  d.context.filter fun e => e.1 != "label" && e.1 != "key"

/-- The same issue, below a path. -/
structure Detail.Relocated (path : Path) (d d' : Detail) : Prop where
  path : d'.path = path ++ d.path
  code : d'.code = d.code
  message : ∃ issue : Issue, d.message = issue.message d.context ∧
    d'.message = issue.message d'.context
  unplaced : d'.unplaced = d.unplaced

/-- The same outcome, below a path. -/
inductive Relocated {α : Type} (path : Path) : Checked α → Checked α → Prop
  | ok (a : α) : Relocated path (.ok a) (.ok a)
  | fault (f : Fault) : Relocated path (.error (.fault f)) (.error (.fault f))
  | issue {d d' : Detail} (h : d.Relocated path d') :
    Relocated path (.error (.issue d)) (.error (.issue d'))

variable {α : Type} {path : Path} {visit : Visit} {store : Store} {prefs : Preferences}
  {env : Environment}

lemma Visit.unplaced_detail (visit : Visit) (issue : Issue) (v : Value) (particulars : Entries) :
    (visit.detail issue v particulars).unplaced =
      ("value", v) :: particulars.filter fun e => e.1 != "label" && e.1 != "key" := by
  simp only [Detail.unplaced, detail, context]
  cases visit.path.getLast? with
  | none => rfl
  | some step => simp [List.filter_append]

lemma Placed.relocated {part : Path → Value → Prop} {x y : Checked α}
    (h : Placed path visit part x y) : Relocated path x y := by
  cases h with
  | ok a => exact .ok a
  | fault f => exact .fault f
  | @issue rest v particulars issue _ _ =>
    refine .issue ⟨?_, rfl, ⟨issue, rfl, rfl⟩, ?_⟩
    · exact List.append_assoc path visit.path rest
    · rw [Visit.unplaced_detail, Visit.unplaced_detail]

/-- What a visit is where its value is the whole one, put below a path. -/
lemma Visit.below_root (path : Path) (prefs : Preferences) (env : Environment) :
    Visit.below path ⟨[], prefs, env⟩ = ⟨path, prefs, env⟩ := by
  simp [below]

lemma refuse_relocated (issue : Issue) (v : Value) :
    Relocated path (Visit.refuse ⟨[], prefs, env⟩ issue v [] : Checked α)
      (Visit.refuse ⟨path, prefs, env⟩ issue v []) := by
  have h : Placed path ⟨[], prefs, env⟩ (fun _ _ => True)
      (Visit.refuse ⟨[], prefs, env⟩ issue v [] : Checked α)
      (Visit.refuse (Visit.below path ⟨[], prefs, env⟩) issue v []) := .here trivial rfl
  exact Visit.below_root path prefs env ▸ h.relocated

lemma attempt_relocated (store : Store) (prefs : Preferences) (env : Environment) (schema : Schema)
    (v : Value) (path : Path) :
    Relocated path (attempt store prefs env schema v)
      (schema.validate store ⟨path, prefs, env⟩ v) :=
  Visit.below_root path prefs env ▸ (schema.validate_placed path ⟨[], prefs, env⟩ v).relocated

lemma Visit.under_of_bare (visit : Visit) {schema : Schema} (hs : schema.overrides = []) :
    visit.under schema.settings = visit := by
  have hoverrides : schema.settings.overrides = [] := hs
  rw [under, hoverrides]
  rfl

/-- The parts of a value, with the steps that lead to them. -/
def Value.children : Value → List (Step × Value)
  | .object entries => entries.map fun e => (.key e.1, e.2)
  | .list items => items.zipIdx.map fun e => (.index e.2, e.1)
  | _ => []

/-- The check of a part on its own. A part without a schema passes, unless it stands under an unknown
key and these are not allowed. -/
def Schema.attemptPart (store : Store) (prefs : Preferences) (env : Environment) (schema : Schema) :
    Step × Value → Checked Value
  | (.key key, v) =>
    match schema.tree? with
    | none => .ok v
    | some name =>
      match lookup? key (store.tree name) with
      | some s => attempt store prefs env s v
      | none =>
        if prefs.allowUnknown then .ok v
        else Visit.refuse ⟨[], prefs, env⟩ .objectUnknown v []
  | (.index _, v) =>
    match schema.item? with
    | none => .ok v
    | some item => attempt store prefs env item v

/-- How an outcome at a path depends on those of some parts, each on its own. The first part that
fails decides; if none does, the outcome is made from the results. -/
structure Composed (path : Path) (parts : List (Step × Value)) (own : Step × Value → Checked Value)
    (whole : List Value → Checked Value) (outcome : Checked Value) : Prop where
  failing : ∀ before step v after refusal, parts = before ++ (step, v) :: after →
    (∀ part ∈ before, ∃ w, own part = .ok w) → own (step, v) = .error refusal →
    Relocated (path ++ [step]) (.error refusal) outcome
  passing : ∀ results, List.Forall₂ (fun part w => own part = .ok w) parts results →
    outcome = whole results

/-- Parts that are checked in turn, each in its place. -/
lemma composed_of_mapM {own placed : Step × Value → Checked Value}
    (hplaced : ∀ part, Relocated (path ++ [part.1]) (own part) (placed part))
    (parts : List (Step × Value)) (whole : List Value → Checked Value) :
    Composed path parts own whole (parts.mapM placed >>= whole) := by
  have hok : ∀ part w, own part = .ok w → placed part = .ok w := by
    intro part w how
    have h := hplaced part
    rw [how] at h
    generalize placed part = outcome at h
    cases h
    rfl
  constructor
  · rintro before step v after refusal rfl hbefore hfails
    have h := hplaced (step, v)
    rw [hfails] at h
    have hplacedBefore : ∀ part ∈ before, ∃ w, placed part = .ok w := fun part hpart =>
      (hbefore part hpart).imp fun w how => hok part w how
    generalize hout : placed (step, v) = outcome at h
    cases h with
    | fault f =>
      rw [mapM_eq_error hplacedBefore hout]
      exact .fault f
    | issue hd =>
      rw [mapM_eq_error hplacedBefore hout]
      exact .issue hd
  · intro results hresults
    rw [mapM_eq_ok.mpr (hresults.imp fun part w how => hok part w how)]
    rfl

namespace Schema

/-- The check of a part in its place. -/
def checkPart (store : Store) (visit : Visit) (schema : Schema) :
    Step × Value → Checked Value
  | (.key key, v) =>
    match schema.tree? with
    | none => .ok v
    | some name => validateEntry store visit (store.tree name) key v
  | (.index i, v) =>
    match schema.item? with
    | none => .ok v
    | some item => item.validate store (visit.down (.index i)) v

lemma attemptPart_relocated (store : Store) (prefs : Preferences) (env : Environment)
    (schema : Schema) (path : Path) (part : Step × Value) :
    Relocated (path ++ [part.1]) (schema.attemptPart store prefs env part)
      (schema.checkPart store ⟨path, prefs, env⟩ part) := by
  obtain ⟨step, v⟩ := part
  cases step with
  | key key =>
    unfold attemptPart checkPart validateEntry
    cases schema.tree? with
    | none => exact .ok v
    | some name =>
      dsimp only
      cases lookup? key (store.tree name) with
      | some s => exact attempt_relocated store prefs env s v (path ++ [.key key])
      | none =>
        dsimp only
        split
        · exact .ok v
        · exact refuse_relocated .objectUnknown v
  | index i =>
    unfold attemptPart checkPart
    cases schema.item? with
    | none => exact .ok v
    | some item => exact attempt_relocated store prefs env item v (path ++ [.index i])

variable {schema : Schema}

lemma validateItems_eq_mapM (visit : Visit) {item : Schema} (hitem : schema.item? = some item)
    (i : Nat) (items : List Value) :
    validateItems store visit item i items =
      ((items.zipIdx i).map fun e => (Step.index e.2, e.1)).mapM (schema.checkPart store visit) := by
  induction items generalizing i with
  | nil =>
    rw [validateItems]
    rfl
  | cons v rest ih =>
    have hpart : schema.checkPart store visit (.index i, v) =
        item.validate store (visit.down (.index i)) v := by
      rw [checkPart, hitem]
    rw [validateItems, List.zipIdx_cons, List.map_cons, List.mapM_cons, hpart, ih]

lemma validateEntries_eq_mapM (visit : Visit) {name : TreeName} (hname : schema.tree? = some name)
    (entries : Entries) :
    validateEntries store visit (store.tree name) entries =
      (entries.map (·.1)).zip <$>
        (Value.object entries).children.mapM (schema.checkPart store visit) := by
  induction entries with
  | nil =>
    rw [validateEntries]
    rfl
  | cons entry rest ih =>
    obtain ⟨key, v⟩ := entry
    have hparts : (Value.object ((key, v) :: rest)).children =
        (.key key, v) :: (Value.object rest).children := rfl
    have hpart : schema.checkPart store visit (.key key, v) =
        validateEntry store visit (store.tree name) key v := by
      rw [checkPart, hname]
    rw [validateEntries_cons, ih, hparts, List.mapM_cons, hpart]
    cases validateEntry store visit (store.tree name) key v with
    | error refusal => rfl
    | ok w =>
      cases (Value.object rest).children.mapM (schema.checkPart store visit) with
      | error refusal => rfl
      | ok ws => rfl

/-- Items that have no schema pass as they are. -/
lemma checkPart_items (visit : Visit) (hitem : schema.item? = none) (i : Nat)
    (items : List Value) :
    List.Forall₂ (fun part w => schema.checkPart store visit part = .ok w)
      ((items.zipIdx i).map fun e => (Step.index e.2, e.1)) items := by
  induction items generalizing i with
  | nil => exact .nil
  | cons v rest ih =>
    have hpart : schema.checkPart store visit (.index i, v) = .ok v := by
      rw [checkPart, hitem]
    exact .cons hpart (ih (i + 1))

lemma validate_list_eq (hs : schema.overrides = []) (visit : Visit) (items : List Value) :
    schema.validate store visit (.list items) = (do
      let results ← (Value.list items).children.mapM (schema.checkPart store visit)
      schema.finish visit (.list results)) := by
  rw [validate, Visit.under_of_bare visit hs]
  cases hitem : schema.item? with
  | some item =>
    dsimp only
    rw [validateItems_eq_mapM visit hitem]
    rfl
  | none =>
    have hpass : (Value.list items).children.mapM (schema.checkPart store visit) = .ok items :=
      mapM_eq_ok.mpr (checkPart_items visit hitem 0 items)
    rw [hpass]
    rfl

lemma validate_object_eq (hs : schema.overrides = []) {name : TreeName}
    (hname : schema.tree? = some name) (visit : Visit) (entries : Entries) :
    schema.validate store visit (.object entries) = (do
      let results ← (Value.object entries).children.mapM (schema.checkPart store visit)
      schema.finish visit (.object ((entries.map (·.1)).zip results))) := by
  rw [validate, Visit.under_of_bare visit hs, hname]
  dsimp only
  rw [validateEntries_eq_mapM visit hname, bind_map_left]

end Schema

/-- A check has the same outcome wherever its value stands, below the path of its place. So the
outcome of an object or a list under a schema without preferences of its own is that of the first
part that fails on its own, in the order of the value. Only if there is none, the object or list of
the results is held against the allowed values and then against the rules. -/
theorem validate_context_free (store : Store) (prefs : Preferences) (env : Environment)
    (path : Path) :
    (∀ schema v, Relocated path (attempt store prefs env schema v)
      (schema.validate store ⟨path, prefs, env⟩ v)) ∧
    (∀ settings rules name entries, settings.overrides = [] →
      Composed path (Value.object entries).children
        ((Schema.object settings rules name).attemptPart store prefs env)
        (fun results => do
          let entries := (entries.map (·.1)).zip results
          settings.permit ⟨path, prefs, env⟩ (.object entries)
          return .object (← rules.foldlM (fun entries rule =>
            rule.check ⟨path, prefs, env⟩ entries) entries))
        ((Schema.object settings rules name).validate store ⟨path, prefs, env⟩
          (.object entries))) ∧
    (∀ settings rules items schema, settings.overrides = [] →
        (schema = Schema.array settings rules ∨ ∃ item, schema = .arrayOf settings rules item) →
      Composed path (Value.list items).children (schema.attemptPart store prefs env)
        (fun results => do
          settings.permit ⟨path, prefs, env⟩ (.list results)
          return .list (← rules.foldlM (fun items rule =>
            rule.check ⟨path, prefs, env⟩ items) results))
        (schema.validate store ⟨path, prefs, env⟩ (.list items))) := by
  refine ⟨fun schema v => attempt_relocated store prefs env schema v path, ?_, ?_⟩
  · intro settings rules name entries hs
    have hbare : (Schema.object settings rules name).overrides = [] := hs
    rw [Schema.validate_object_eq hbare rfl]
    exact composed_of_mapM (Schema.attemptPart_relocated store prefs env _ path) _ _
  · intro settings rules items schema hs hschema
    have hbare : schema.overrides = [] := by
      obtain rfl | ⟨item, rfl⟩ := hschema <;> exact hs
    have hcomposed := composed_of_mapM (Schema.attemptPart_relocated store prefs env schema path)
      (Value.list items).children fun results => schema.finish ⟨path, prefs, env⟩ (.list results)
    rw [← Schema.validate_list_eq hbare] at hcomposed
    obtain rfl | ⟨item, rfl⟩ := hschema <;> exact hcomposed

/-- Links with names, each perhaps with a next one. -/
def linkStore : Store :=
  ⟨[(.input "Link",
    [("name", .string .plain []), ("next", .object .plain [] (.input "Link"))])]⟩

theorem validate_context_free_link :
    let visit : Visit := ⟨[.key "first"], ⟨false, false⟩, .epoch⟩
    let link : Schema := .object .plain [] (.input "Link")
    let named : Value := .object [("name", .str "a")]
    (∃ d, link.attemptPart linkStore visit.prefs visit.env (.key "weight", .str "b") =
        .error (.issue d) ∧
      Relocated [.key "first", .key "weight"] (.error (.issue d)) (link.validate linkStore visit
        (.object [("next", named), ("weight", .str "b"), ("name", .bool true)]))) ∧
    (Schema.arrayOf .plain [.size .max 1] link).validate linkStore visit (.list [named, .null]) =
      visit.refuse .arrayMax (.list [named, .null]) [("limit", .int 1)] := by
  intro visit link named
  obtain ⟨-, hobject, hlist⟩ := validate_context_free linkStore visit.prefs visit.env visit.path
  constructor
  · refine ⟨_, rfl, ?_⟩
    refine (hobject .plain [] (.input "Link") _ rfl).failing [(.key "next", named)] (.key "weight")
      (.str "b") [(.key "name", .bool true)] _ rfl ?_ rfl
    exact fun part hpart => ⟨named, List.mem_singleton.mp hpart ▸ rfl⟩
  · have hpassing := (hlist .plain [.size .max 1] [named, .null] _ rfl (.inr ⟨link, rfl⟩)).passing
      [named, .null] (.cons rfl (.cons rfl .nil))
    exact hpassing

end InputGuard

import InputGuard.Proofs.Outcomes

/-!
# The depth of the recursion

The check of a value calls itself for the parts of the value. Schemas do not bound these calls, since
their trees may lead back to themselves. Here the check is given a budget for calls inside each other
and ends without an outcome where it would need more. The calls that a check makes before its first
refusal are one inside the other as deep as `callDepth` says, a budget is exhausted exactly if it is
less, and it is no more than one call for every step down to the innermost part and one for the whole.
-/

namespace InputGuard

namespace Value

mutual

/-- The number of steps down to the innermost part of a value. -/
def depth : Value → Nat
  | .list items => depthOfItems items
  | .object entries => depthOfEntries entries
  | _ => 0

def depthOfItems : List Value → Nat
  | [] => 0
  | v :: rest => max (v.depth + 1) (depthOfItems rest)

def depthOfEntries : List (String × Value) → Nat
  | [] => 0
  | (_, v) :: rest => max (v.depth + 1) (depthOfEntries rest)

end

end Value

/-- Why a check with a budget gives no value: a refusal, or that the budget is exhausted. -/
inductive Halt
  | refused (refusal : Refusal)
  | exhausted

abbrev Budgeted (α : Type) := Except Halt α

namespace Budgeted

variable {α β : Type}

/-- The outcome of a check, as that of one with a budget. -/
def ofChecked : Checked α → Budgeted α
  | .ok a => .ok a
  | .error refusal => .error (.refused refusal)

/-- What is left of an outcome within a budget, if it takes calls of some depth. -/
def within (budget depth : Nat) (outcome : Checked α) : Budgeted α :=
  if depth ≤ budget then ofChecked outcome else .error .exhausted

lemma within_zero (budget : Nat) (outcome : Checked α) :
    within budget 0 outcome = ofChecked outcome :=
  if_pos (Nat.zero_le budget)

lemma within_succ (budget depth : Nat) (outcome : Checked α) :
    within (budget + 1) (depth + 1) outcome = within budget depth outcome := by
  simp only [within, Nat.add_le_add_iff_right]

lemma within_succ_zero (budget : Nat) (outcome : Checked α) :
    within (budget + 1) 1 outcome = ofChecked outcome := by
  rw [within_succ, within_zero]

lemma within_eq_exhausted {budget depth : Nat} {outcome : Checked α} :
    within budget depth outcome = .error .exhausted ↔ budget < depth := by
  by_cases hdepth : depth ≤ budget
  · have hsome : within budget depth outcome = ofChecked outcome := if_pos hdepth
    rw [hsome]
    cases outcome <;> simp [ofChecked, hdepth]
  · have hnone : within budget depth outcome = .error .exhausted := if_neg hdepth
    simp only [hnone, Nat.lt_of_not_le hdepth]

end Budgeted

/-- The depth of two steps in turn, the second of which is taken only if the first succeeds. -/
def inTurn {α : Type} (depth : Nat) (first : Checked α) (next : Nat) : Nat :=
  match first with
  | .ok _ => max depth next
  | .error _ => depth

lemma inTurn_le_max {α : Type} (depth : Nat) (first : Checked α) (next : Nat) :
    inTurn depth first next ≤ max depth next := by
  cases first with
  | error refusal => exact Nat.le_max_left depth next
  | ok a => exact Nat.le_refl _

namespace Budgeted

variable {α β : Type} {budget depth next : Nat}

lemma within_bind (first : Checked α) (second : α → Checked β) :
    (within budget depth first >>= fun a => within budget next (second a)) =
      within budget (inTurn depth first next) (first >>= second) := by
  by_cases hdepth : depth ≤ budget
  · cases first with
    | error refusal => simp only [within, inTurn, hdepth, if_true]; rfl
    | ok a =>
      have hboth : max depth next ≤ budget ↔ next ≤ budget := by omega
      simp only [within, inTurn, hdepth, hboth, if_true]
      rfl
  · have hboth : ¬inTurn depth first next ≤ budget := by
      cases first with
      | error refusal => exact hdepth
      | ok a =>
        simp only [inTurn]
        omega
    simp only [within, hdepth, hboth, if_false]
    rfl

lemma inTurn_zero (first : Checked α) : inTurn depth first 0 = depth := by
  cases first with
  | error refusal => rfl
  | ok a => exact Nat.max_zero depth

/-- A last step that calls nothing. -/
lemma within_bind_ofChecked (first : Checked α) (last : α → Checked β) :
    (within budget depth first >>= fun a => ofChecked (last a)) =
      within budget depth (first >>= last) := by
  have hlast : ∀ a, ofChecked (last a) = within budget 0 (last a) := fun a =>
    (within_zero budget (last a)).symm
  simp only [hlast, within_bind, inTurn_zero]

end Budgeted

namespace Schema

open Budgeted

/-- The value under a key that the tree of an object lacks. -/
def unknownEntry (visit : Visit) (key : String) (v : Value) : Checked Value :=
  if visit.prefs.allowUnknown then .ok v
  else (visit.down (.key key)).refuse .objectUnknown v []

/-- The check of a value with a budget for calls inside each other. -/
def validateWithin (store : Store) : Nat → Visit → Schema → Value → Budgeted Value
  | 0, _, _, _ => .error .exhausted
  | budget + 1, visit, schema, v =>
    match v with
    | .null => .ok .null
    | .list items =>
      let visit := visit.under schema.settings
      match schema.item? with
      | some item => do
        let items ← items.zipIdx.mapM fun (v, i) =>
          validateWithin store budget (visit.down (.index i)) item v
        ofChecked (schema.finish visit (.list items))
      | none => ofChecked (schema.finish visit (.list items))
    | .object entries =>
      let visit := visit.under schema.settings
      match schema.tree? with
      | some name => do
        let entries ← entries.mapM fun (key, v) => do
          match lookup? key (store.tree name) with
          | some s => return (key, ← validateWithin store budget (visit.down (.key key)) s v)
          | none => return (key, ← ofChecked (unknownEntry visit key v))
        ofChecked (schema.finish visit (.object entries))
      | none => ofChecked (schema.finish visit (.object entries))
    | v => ofChecked (schema.finish (visit.under schema.settings) v)

mutual

/-- How deep the calls of a check are inside each other, that of the check itself included. -/
def callDepth (store : Store) (visit : Visit) (schema : Schema) : Value → Nat
  | .list items =>
    match schema.item? with
    | some item => callDepthOfItems store (visit.under schema.settings) item 0 items + 1
    | none => 1
  | .object entries =>
    match schema.tree? with
    | some name =>
      callDepthOfEntries store (visit.under schema.settings) (store.tree name) entries + 1
    | none => 1
  | _ => 1

def callDepthOfItems (store : Store) (visit : Visit) (item : Schema) (i : Nat) : List Value → Nat
  | [] => 0
  | v :: rest =>
    inTurn (callDepth store (visit.down (.index i)) item v)
      (item.validate store (visit.down (.index i)) v)
      (callDepthOfItems store visit item (i + 1) rest)

def callDepthOfEntries (store : Store) (visit : Visit) (tree : Tree) :
    List (String × Value) → Nat
  | [] => 0
  | (key, v) :: rest =>
    let depth := match lookup? key tree with
      | some schema => callDepth store (visit.down (.key key)) schema v
      | none => 0
    inTurn depth (validateEntry store visit tree key v)
      (callDepthOfEntries store visit tree rest)

end

variable {store : Store}

lemma callDepth_pos (visit : Visit) (schema : Schema) (v : Value) :
    0 < schema.callDepth store visit v := by
  cases v with
  | list items =>
    rw [callDepth]
    split <;> omega
  | object entries =>
    rw [callDepth]
    split <;> omega
  | _ => simp [callDepth]

mutual

/-- A check with a budget has its outcome if its calls are not too deep, and else exhausts the
budget. -/
theorem validateWithin_eq (budget : Nat) (visit : Visit) (schema : Schema) (v : Value) :
    schema.validateWithin store budget visit v =
      within budget (schema.callDepth store visit v) (schema.validate store visit v) := by
  match budget, v with
  | 0, v =>
    have hpos : 0 < schema.callDepth store visit v := schema.callDepth_pos visit v
    rw [within, if_neg (by omega)]
    rfl
  | budget + 1, .list items =>
    rw [validateWithin, validate, callDepth]
    cases schema.item? with
    | none => exact (within_succ_zero budget _).symm
    | some item =>
      dsimp only
      rw [validateItemsWithin_eq budget _ item 0 items, within_bind_ofChecked, within_succ]
  | budget + 1, .object entries =>
    rw [validateWithin, validate, callDepth]
    cases schema.tree? with
    | none => exact (within_succ_zero budget _).symm
    | some name =>
      dsimp only
      rw [validateEntriesWithin_eq budget _ (store.tree name) entries, within_bind_ofChecked,
        within_succ]
  | budget + 1, .null => exact (within_succ_zero budget (.ok Value.null)).symm
  | budget + 1, .bool _ | budget + 1, .number _ | budget + 1, .str _ | budget + 1, .day _
  | budget + 1, .pattern _ | budget + 1, .moment _ => exact (within_succ_zero budget _).symm

theorem validateItemsWithin_eq (budget : Nat) (visit : Visit) (item : Schema) (i : Nat)
    (items : List Value) :
    ((items.zipIdx i).mapM fun (v, i) =>
        item.validateWithin store budget (visit.down (.index i)) v) =
      within budget (callDepthOfItems store visit item i items)
        (validateItems store visit item i items) := by
  match items with
  | [] => exact (within_zero budget (validateItems store visit item i [])).symm
  | v :: rest =>
    rw [List.zipIdx_cons, List.mapM_cons, validateItemsWithin_eq budget visit item (i + 1) rest,
      validateItems, callDepthOfItems]
    dsimp only
    rw [validateWithin_eq budget (visit.down (.index i)) item v, ← within_bind]
    congr 1
    funext w
    exact within_bind_ofChecked _ fun ws => .ok (w :: ws)

theorem validateEntriesWithin_eq (budget : Nat) (visit : Visit) (tree : Tree)
    (entries : List (String × Value)) :
    (entries.mapM fun (key, v) => do
        match lookup? key tree with
        | some s => return (key, ← s.validateWithin store budget (visit.down (.key key)) v)
        | none => return (key, ← ofChecked (unknownEntry visit key v))) =
      within budget (callDepthOfEntries store visit tree entries)
        (validateEntries store visit tree entries) := by
  match entries with
  | [] => exact (within_zero budget (validateEntries store visit tree [])).symm
  | (key, v) :: rest =>
    rw [List.mapM_cons, validateEntriesWithin_eq budget visit tree rest, validateEntries_cons,
      callDepthOfEntries, ← within_bind]
    have hlast (w : Value) : (within budget (callDepthOfEntries store visit tree rest)
          (validateEntries store visit tree rest) >>= fun ws => pure ((key, w) :: ws)) =
        within budget (callDepthOfEntries store visit tree rest)
          (validateEntries store visit tree rest >>= fun ws => pure ((key, w) :: ws)) :=
      within_bind_ofChecked _ fun ws => .ok ((key, w) :: ws)
    cases hlook : lookup? key tree with
    | none =>
      have hentry : validateEntry store visit tree key v = unknownEntry visit key v := by
        rw [validateEntry, hlook, unknownEntry]
      simp only [hlook, hentry, within_zero, bind_assoc, pure_bind, hlast]
    | some schema =>
      have hpart := validateWithin_eq budget (visit.down (.key key)) schema v
      simp only [validateEntry, hlook, hpart, bind_assoc, pure_bind, hlast]

end

mutual

/-- The calls of a check go down a step of the value each, whatever the schemas lead to. -/
theorem callDepth_le (visit : Visit) (schema : Schema) (v : Value) :
    schema.callDepth store visit v ≤ v.depth + 1 := by
  match v with
  | .list items =>
    rw [callDepth, Value.depth]
    cases schema.item? with
    | none => exact Nat.le_add_left 1 _
    | some item =>
      have hitems := callDepthOfItems_le (visit.under schema.settings) item 0 items
      dsimp only
      omega
  | .object entries =>
    rw [callDepth, Value.depth]
    cases schema.tree? with
    | none => exact Nat.le_add_left 1 _
    | some name =>
      have hentries := callDepthOfEntries_le (visit.under schema.settings) (store.tree name) entries
      dsimp only
      omega
  | .null | .bool _ | .number _ | .str _ | .day _ | .pattern _ | .moment _ => exact Nat.le_refl _

theorem callDepthOfItems_le (visit : Visit) (item : Schema) (i : Nat) (items : List Value) :
    callDepthOfItems store visit item i items ≤ Value.depthOfItems items := by
  match items with
  | [] => exact Nat.le_refl _
  | v :: rest =>
    rw [callDepthOfItems, Value.depthOfItems]
    have hpart := callDepth_le (visit.down (.index i)) item v
    have hrest := callDepthOfItems_le visit item (i + 1) rest
    have hturn := inTurn_le_max (callDepth store (visit.down (.index i)) item v)
      (item.validate store (visit.down (.index i)) v)
      (callDepthOfItems store visit item (i + 1) rest)
    omega

theorem callDepthOfEntries_le (visit : Visit) (tree : Tree) (entries : List (String × Value)) :
    callDepthOfEntries store visit tree entries ≤ Value.depthOfEntries entries := by
  match entries with
  | [] => exact Nat.le_refl _
  | (key, v) :: rest =>
    rw [callDepthOfEntries, Value.depthOfEntries]
    have hrest := callDepthOfEntries_le visit tree rest
    cases lookup? key tree with
    | none =>
      have hturn := inTurn_le_max 0 (validateEntry store visit tree key v)
        (callDepthOfEntries store visit tree rest)
      dsimp only
      omega
    | some schema =>
      have hpart := callDepth_le (visit.down (.key key)) schema v
      have hturn := inTurn_le_max (callDepth store (visit.down (.key key)) schema v)
        (validateEntry store visit tree key v) (callDepthOfEntries store visit tree rest)
      dsimp only
      omega

end

/-- Whatever the trees of a store lead to, the calls that a check of a value makes inside each other
are no deeper than the value and one more. A budget is exhausted exactly if the calls are deeper, and
with any budget greater than the depth of the value the outcome is that of the check. -/
theorem validate_recursion (store : Store) (visit : Visit) (schema : Schema) (v : Value) :
    schema.callDepth store visit v ≤ v.depth + 1 ∧
      (∀ budget, schema.validateWithin store budget visit v = .error .exhausted ↔
        budget < schema.callDepth store visit v) ∧
      ∀ budget, v.depth < budget →
        schema.validateWithin store budget visit v = ofChecked (schema.validate store visit v) := by
  have hdepth : schema.callDepth store visit v ≤ v.depth + 1 := schema.callDepth_le visit v
  refine ⟨hdepth, fun budget => ?_, fun budget hbudget => ?_⟩
  · rw [validateWithin_eq, within_eq_exhausted]
  · have hcalls : schema.callDepth store visit v ≤ budget := by omega
    rw [validateWithin_eq, within, if_pos hcalls]

/-- Folders hold files, and files may hold folders again. -/
def folders : Store :=
  ⟨[(.input "Folder", [("name", .string .plain []),
      ("files", .arrayOf .plain [] (.object .plain [] (.input "File")))]),
    (.input "File", [("size", .number .plain [.integer] false),
      ("inside", .object .plain [] (.input "Folder"))])]⟩

/-- A size six steps inside a folder is refused by the seventh call inside the others. -/
theorem validate_recursion_folders :
    let env : Environment := .epoch
    let folder : Schema := .object .plain [] (.input "Folder")
    let visit : Visit := ⟨[], ⟨false, false⟩, env⟩
    let v : Value := .object [("files", .list [.object [("inside", .null)],
      .object [("inside", .object [("files", .list [.object [("size", .str "large")]])])]])]
    v.depth = 6 ∧ folder.callDepth folders visit v = 7 ∧
      folder.validateWithin folders 6 visit v = .error .exhausted ∧
      ∀ budget, 6 < budget →
        folder.validateWithin folders budget visit v = ofChecked (folder.validate folders visit v) := by
  intro env folder visit v
  obtain ⟨-, hexhausted, houtcome⟩ := folder.validate_recursion folders visit v
  have hdepth : folder.callDepth folders visit v = 7 := rfl
  refine ⟨rfl, hdepth, (hexhausted 6).mpr ?_, houtcome⟩
  omega

end Schema

end InputGuard

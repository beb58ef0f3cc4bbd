import InputGuard.Proofs.PlacedIssues

/-!
# Reported parts

An issue is reported with a path, and with a context that holds a value, a label and perhaps a key.
Where nothing may be converted, all of these are about the same part of the value that was checked:
the one to which the path leads.
-/

namespace InputGuard

namespace Visit

variable (visit : Visit) (v : Value) {particulars : Entries}

/-- A context in one piece: the key comes last, if there is one. -/
lemma context_eq (particulars : Entries) : visit.context v particulars =
    ("label", .str visit.label) :: ("value", v) :: particulars ++
      (visit.path.getLast?.map fun step => ("key", step.value)).toList := by
  unfold context
  cases visit.path.getLast? with
  | none => simp
  | some step => rfl

lemma lookup?_label_context (particulars : Entries) :
    lookup? "label" (visit.context v particulars) = some (.str visit.label) := by
  rw [context_eq]
  rfl

lemma lookup?_value_context (particulars : Entries) :
    lookup? "value" (visit.context v particulars) = some v := by
  rw [context_eq]
  rfl

lemma lookup?_key_context (hp : unreserved particulars = true) :
    lookup? "key" (visit.context v particulars) = visit.path.getLast?.map Step.value := by
  have hkey : lookup? "key" particulars = none := by
    have hall := List.all_eq_true.mp hp "key" (by simp)
    simpa [hasKey] using hall
  have hbase : lookup? "key" (("label", Value.str visit.label) :: ("value", v) :: particulars) =
      none := hkey
  rw [context_eq, lookup?_append, hbase]
  cases visit.path.getLast? <;> rfl

end Visit

lemma Placed.exists_issue {α : Type} {path : Path} {visit : Visit} {part : Path → Value → Prop}
    {x y : Checked α} {d : Detail} (h : Placed path visit part x y)
    (hx : x = .error (.issue d)) :
    ∃ rest v issue particulars, part rest v ∧ unreserved particulars = true ∧
      d = (visit.follow rest).detail issue v particulars := by
  cases h with
  | ok a => cases hx
  | fault f => cases hx
  | @issue rest v particulars issue hv hp =>
    exact ⟨rest, v, issue, particulars, hv, hp, (Refusal.issue.inj (Except.error.inj hx)).symm⟩

/-- The issue that a check without conversion has is with the part of the value to which its path
leads. Its context holds this part, the label of the path and, unless it is with the whole value,
the last step of the path. -/
theorem attempt_issue_part {store : Store} {prefs : Preferences} {env : Environment}
    {schema : Schema} {v : Value} {detail : Detail} (hc : prefs.convert = false)
    (hs : schema.requestsConversion store = false) (ht : v.timeless = true)
    (hk : v.wellKeyed = true)
    (h : attempt store prefs env schema v = .error (.issue detail)) :
    ∃ part, v.at? detail.path = some part ∧
      lookup? "value" detail.context = some part ∧
      lookup? "label" detail.context = some (.str detail.path.label) ∧
      lookup? "key" detail.context = detail.path.getLast?.map Step.value := by
  have hplaced : Placed [] ⟨[], prefs, env⟩
      (fun rest w => schema.Strict store ⟨[], prefs, env⟩ v → v.Has rest w)
      (attempt store prefs env schema v) _ := schema.validate_placed [] ⟨[], prefs, env⟩ v
  obtain ⟨rest, part, issue, particulars, hpart, hp, rfl⟩ := hplaced.exists_issue h
  have hat : v.at? rest = some part := hpart ⟨hc, hs, ht, hk⟩
  exact ⟨part, hat, Visit.lookup?_value_context _ _ _, Visit.lookup?_label_context _ _ _,
    Visit.lookup?_key_context _ _ hp⟩

/-- Posts with tags that are all different, each perhaps in answer to another post. -/
def postStore : Store :=
  ⟨[(.input "Post",
    [("tags", .arrayOf .plain [.unique .whole] (.string .plain [])),
      ("parent", .object .plain [] (.input "Post"))])]⟩

def postValue : Value :=
  .object [("tags", .list []), ("parent", .object [("tags", .strings ["a", "b", "a"])])]

theorem attempt_issue_part_post :
    let env : Environment := .epoch
    let schema : Schema := .object .plain [] (.input "Post")
    schema.requestsConversion postStore = false ∧ postValue.timeless = true ∧
      postValue.wellKeyed = true ∧
      ∃ detail part, attempt postStore ⟨false, true⟩ env schema postValue = .error (.issue detail) ∧
        detail.path = [.key "parent", .key "tags", .index 2] ∧
        postValue.at? detail.path = some part ∧ lookup? "value" detail.context = some part ∧
        lookup? "label" detail.context = some (.str detail.path.label) ∧
        lookup? "key" detail.context = detail.path.getLast?.map Step.value := by
  intro env schema
  have hs : schema.requestsConversion postStore = false := by decide
  have ht : postValue.timeless = true := by decide
  have hk : postValue.wellKeyed = true := by decide
  have h : attempt postStore ⟨false, true⟩ env schema postValue = .error (.issue
      (Visit.detail ⟨[.key "parent", .key "tags", .index 2], ⟨false, true⟩, env⟩ .arrayUnique
        (.str "a") [("pos", .int 2), ("dupe_pos", .int 0), ("dupe_value", .str "a")])) := rfl
  obtain ⟨part, hpart⟩ := attempt_issue_part rfl hs ht hk h
  exact ⟨hs, ht, hk, _, part, h, rfl, hpart⟩

end InputGuard

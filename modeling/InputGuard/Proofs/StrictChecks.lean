import InputGuard.Proofs.ConversionReach
import InputGuard.Proofs.PassedValues
import InputGuard.Schema.Validate

/-!
# Checks without conversion

Where nothing may be converted, every rule and every kind of schema passes a value on as it is or
not at all. The one exception is a date: it is put on a universal clock in any case.
-/

namespace InputGuard

variable {visit : Visit}

@[simp] lemma Visit.refuse_ne_ok {α : Type} (issue : Issue) (v : Value) (particulars : Entries)
    (a : α) : (visit.refuse issue v particulars : Checked α) ≠ .ok a := by
  simp [Visit.refuse]

namespace StringRule

lemma require_eq {issue : Issue} {s t : String} {holds : Bool}
    (h : require visit issue s holds = .ok t) : t = s := by
  unfold require at h
  split at h
  · cases h
    rfl
  · exact absurd h (Visit.refuse_ne_ok _ _ _ _)

lemma mend_eq {issue : Issue} {s mended t : String} {particulars : Entries}
    (hv : visit.prefs.convert = false) (h : mend visit issue s mended particulars = .ok t) :
    t = s := by
  unfold mend at h
  rw [hv, if_neg Bool.false_ne_true] at h
  split at h
  · cases h
    rfl
  · exact absurd h (Visit.refuse_ne_ok _ _ _ _)

lemma check_eq (hv : visit.prefs.convert = false) (s : String) (rule : StringRule) (t : String)
    (h : rule.check visit s = .ok t) : t = s := by
  cases rule with
  | alphanum | token | isoDuration | isoDate | base64 | dataUri | hostname | guid =>
    exact require_eq h
  | letterCase | trim | normalize => exact mend_eq hv h
  | creditCard | domain =>
    obtain ⟨_, _, hrequire⟩ := bind_eq_ok.mp h
    exact require_eq hrequire
  | hex byteAligned =>
    simp only [check, checkHex, hv] at h
    split at h
    · simp at h
    · split at h
      · simp at h
      · cases h
        rfl
  | size test limit encoding =>
    simp only [check, checkSize] at h
    obtain ⟨n, _, hrest⟩ := bind_eq_ok.mp h
    split at hrest
    · exact (pure_eq_ok.mp hrest).symm
    · split at hrest <;> simp [bind_eq_ok] at hrest
  | pattern p name invert =>
    simp only [check, checkPattern] at h
    split at h
    · simp at h
    · cases h
      rfl
  | email o =>
    simp only [check, checkEmail] at h
    obtain ⟨invalid, _, hrest⟩ := bind_eq_ok.mp h
    split at hrest
    · exact (pure_eq_ok.mp hrest).symm
    · simp at hrest
  | ip o =>
    simp only [check, checkIp] at h
    obtain ⟨holds, _, hrest⟩ := bind_eq_ok.mp h
    split at hrest
    · exact (pure_eq_ok.mp hrest).symm
    · split at hrest <;> simp [bind_eq_ok] at hrest

end StringRule

namespace NumberRule

lemma require_eq {issue : Issue} {x y : Number} {particulars : Entries} {holds : Bool}
    (h : require visit issue x particulars holds = .ok y) : y = x := by
  unfold require at h
  split at h
  · cases h
    rfl
  · simp at h

lemma check_eq (hv : visit.prefs.convert = false) (x : Number) (rule : NumberRule) (y : Number)
    (h : rule.check visit x = .ok y) : y = x := by
  cases rule with
  | bound | integer | port => exact require_eq h
  | sign s => cases s <;> exact require_eq h
  | multiple base =>
    obtain ⟨_, _, hrequire⟩ := bind_eq_ok.mp h
    exact require_eq hrequire
  | precision limit =>
    simp only [check, checkPrecision, hv] at h
    split at h
    · simp at h
    · split at h
      · cases h
        rfl
      · simp at h

end NumberRule

namespace ArrayRule

lemma check_eq (hv : visit.prefs.convert = false) (items : List Value) (rule : ArrayRule)
    (items' : List Value) (h : rule.check visit items = .ok items') : items' = items := by
  cases rule with
  | size test limit =>
    simp only [check] at h
    split at h
    · cases h
      rfl
    · simp at h
  | sort order key =>
    simp only [check, checkSort, hv] at h
    obtain ⟨keys, _, hrest⟩ := bind_eq_ok.mp h
    split at hrest
    · simp at hrest
    · simp only [Bool.false_eq_true, if_false] at hrest
      split at hrest
      · exact (pure_eq_ok.mp hrest).symm
      · simp at hrest
  | unique key =>
    simp only [check, checkUnique] at h
    obtain ⟨keys, _, hrest⟩ := bind_eq_ok.mp h
    split at hrest
    · exact (pure_eq_ok.mp hrest).symm
    · simp at hrest

end ArrayRule

namespace ObjectRule

lemma checkPeers_eq {names : List String} {entries entries' : Entries} {test : PeerTest}
    (h : checkPeers visit names entries test = .ok entries') : entries' = entries := by
  cases test <;> simp only [checkPeers] at h <;> (repeat' split at h) <;>
    first
    | exact (Except.ok.inj h).symm
    | exact absurd h (Visit.refuse_ne_ok _ _ _ _)

lemma refuseFirst_eq {issue : Issue} {key : MainKey} {entries entries' : Entries}
    {offending : String → Bool} {names : List String}
    (h : refuseFirst visit issue key entries offending names = .ok entries') :
    entries' = entries := by
  unfold refuseFirst at h
  split at h
  · cases h
  · exact (Except.ok.inj h).symm
  · split at h
    · exact (Except.ok.inj h).symm
    · split at h
      · exact (Except.ok.inj h).symm
      · simp at h

lemma check_eq (entries : Entries) (rule : ObjectRule) (entries' : Entries)
    (h : rule.check visit entries = .ok entries') : entries' = entries := by
  cases rule with
  | size test limit =>
    simp only [check] at h
    split at h
    · exact (Except.ok.inj h).symm
    · simp at h
  | peers => exact checkPeers_eq h
  | with_ | without => exact refuseFirst_eq h

end ObjectRule

namespace Value

lemma toNumber_eq {anySize : Bool} {v : Value} {x : Number} (hv : visit.prefs.convert = false)
    (h : v.toNumber visit anySize = .ok x) : v = .number x := by
  unfold toNumber at h
  split at h
  · unfold Number.require at h
    split at h
    · simp at h
    · simp at h
    · split at h
      · rw [Except.ok.inj h]
      · simp at h
  · rw [hv] at h
    simp at h
  · simp at h

lemma toBool_eq {v : Value} {b : Bool} (hv : visit.prefs.convert = false)
    (h : v.toBool visit = .ok b) : v = .bool b := by
  unfold toBool at h
  split at h
  · rw [Except.ok.inj h]
  · simp [hv] at h
  · simp at h

lemma toDate_ne_ok {format : Option DateFormat} {v : Value} {m : Moment}
    (hv : visit.prefs.convert = false) (hm : ∀ m, v ≠ .moment m) :
    v.toDate visit format ≠ .ok m := by
  intro h
  unfold toDate at h
  split at h
  · exact hm _ rfl
  · simp [hv] at h

end Value

lemma Schema.finish_eq (hv : visit.prefs.convert = false) (schema : Schema) {v w : Value}
    (hm : ∀ m, v ≠ .moment m) (h : schema.finish visit v = .ok w) : w = v := by
  cases finish_eq_ok_iff.mp h with
  | any => rfl
  | boolean hb => rw [Value.toBool_eq hv hb]
  | date hdate => exact absurd hdate (Value.toDate_ne_ok hv hm)
  | number hx _ hrules =>
    rw [Value.toNumber_eq hv hx, foldlM_eq_self (NumberRule.check_eq hv) hrules]
  | string _ hrules => rw [foldlM_eq_self (StringRule.check_eq hv) hrules]
  | array _ hrules | arrayOf _ hrules => rw [foldlM_eq_self (ArrayRule.check_eq hv) hrules]
  | object _ hrules => rw [foldlM_eq_self ObjectRule.check_eq hrules]

mutual

/-- Whether there is no date with a time of day in a value. -/
def Value.timeless : Value → Bool
  | .moment _ => false
  | .list items => timelessItems items
  | .object entries => timelessEntries entries
  | _ => true

def Value.timelessItems : List Value → Bool
  | [] => true
  | v :: rest => v.timeless && timelessItems rest

def Value.timelessEntries : List (String × Value) → Bool
  | [] => true
  | (_, v) :: rest => v.timeless && timelessEntries rest

end

lemma Visit.convert_under {schema : Schema} (hv : visit.prefs.convert = false)
    (hs : schema.converts = false) : (visit.under schema.settings).prefs.convert = false := by
  simpa [Visit.under, Preferences.merge, hv, Schema.converts, Schema.overrides] using hs

namespace Schema

variable {store : Store}

/-- An entry without a schema is passed on as it is, and so is any entry if its schema does that. -/
lemma validateEntry_eq_self {tree : Tree} {key : String} {v w : Value}
    (hs : ∀ schema, lookup? key tree = some schema → ∀ w,
      schema.validate store (visit.down (.key key)) v = .ok w → w = v)
    (h : validateEntry store visit tree key v = .ok w) : w = v := by
  obtain ⟨schema, hlook, hw⟩ | ⟨-, -, hw⟩ := validateEntry_eq_ok_iff.mp h
  · exact hs schema hlook w hw
  · exact hw

mutual

/-- Where no conversion is asked for, a check passes on the very value that it was given. -/
theorem validate_eq_self (visit : Visit) (hv : visit.prefs.convert = false) (schema : Schema)
    (hs : schema.requestsConversion store = false) (v : Value) (ht : v.timeless = true) (w : Value)
    (h : schema.validate store visit v = .ok w) : w = v := by
  have hunder := Visit.convert_under hv (converts_eq_false hs)
  match v with
  | .null =>
    rw [validate] at h
    exact (Except.ok.inj h).symm
  | .list items =>
    rw [validate] at h
    cases schema with
    | arrayOf settings rules item =>
      obtain ⟨items', hitems, hfinish⟩ := bind_eq_ok.mp h
      have hitem := requestsConversion_of_leads (.item .self) hs
      rw [validateItems_eq_self _ hunder item hitem 0 items ht items' hitems] at hfinish
      exact finish_eq hunder _ (fun _ => Value.noConfusion) hfinish
    | any | string | number | date | boolean | array | object =>
      exact finish_eq hunder _ (fun _ => Value.noConfusion) h
  | .object entries =>
    rw [validate] at h
    cases schema with
    | object settings rules tree =>
      obtain ⟨entries', hentries, hfinish⟩ := bind_eq_ok.mp h
      have htree : ∀ key s, lookup? key (store.tree tree) = some s →
          s.requestsConversion store = false := fun key s hlook =>
        requestsConversion_of_leads (.entry .self (mem_of_lookup? hlook)) hs
      rw [validateEntries_eq_self _ hunder _ htree entries ht entries' hentries] at hfinish
      exact finish_eq hunder _ (fun _ => Value.noConfusion) hfinish
    | any | string | number | date | boolean | array | arrayOf =>
      exact finish_eq hunder _ (fun _ => Value.noConfusion) h
  | .bool _ | .number _ | .str _ | .day _ | .pattern _ =>
    exact finish_eq hunder schema (fun _ => Value.noConfusion) h
  | .moment m => simp [Value.timeless] at ht

theorem validateItems_eq_self (visit : Visit) (hv : visit.prefs.convert = false) (item : Schema)
    (hs : item.requestsConversion store = false) (i : Nat) (items : List Value)
    (ht : Value.timelessItems items = true) (items' : List Value)
    (h : validateItems store visit item i items = .ok items') : items' = items := by
  match items with
  | [] =>
    rw [validateItems] at h
    exact (Except.ok.inj h).symm
  | v :: rest =>
    simp only [Value.timelessItems, Bool.and_eq_true] at ht
    obtain ⟨w, ws, hw, hws, rfl⟩ := validateItems_cons_eq_ok.mp h
    have hwv := validate_eq_self (visit.down (.index i)) hv item hs v ht.1 w hw
    have hwsv := validateItems_eq_self visit hv item hs (i + 1) rest ht.2 ws hws
    rw [hwv, hwsv]

theorem validateEntries_eq_self (visit : Visit) (hv : visit.prefs.convert = false) (tree : Tree)
    (hs : ∀ key s, lookup? key tree = some s → s.requestsConversion store = false)
    (entries : List (String × Value)) (ht : Value.timelessEntries entries = true)
    (entries' : Entries) (h : validateEntries store visit tree entries = .ok entries') :
    entries' = entries := by
  match entries with
  | [] =>
    rw [validateEntries] at h
    exact (Except.ok.inj h).symm
  | (key, v) :: rest =>
    simp only [Value.timelessEntries, Bool.and_eq_true] at ht
    obtain ⟨w, ws, hw, hws, rfl⟩ := (validateEntries_cons_eq_ok store visit tree).mp h
    have hwv : w = v := validateEntry_eq_self (fun schema hlook w hw =>
      validate_eq_self (visit.down (.key key)) hv schema (hs key schema hlook) v ht.1 w hw) hw
    rw [hwv, validateEntries_eq_self visit hv tree hs rest ht.2 ws hws]

end

end Schema

end InputGuard

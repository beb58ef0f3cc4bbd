import InputGuard.Proofs.SortedRuns
import InputGuard.Proofs.StrictChecks
import InputGuard.Proofs.ValueOrder

/-!
# Relaxed preferences

A value that is accepted under some preferences is accepted with the same result under preferences
that allow more. Most rules do not look at the preferences at all. A rule that may mend a value
accepts without mending only what it would not change. For sorting this is not evident, because it
takes items for sorted if equal ones stand in their places: then the items compare as sorted ones
do, so they are a single run, which sorting does not change.
-/

namespace InputGuard

/-- Preferences that allow at least what others allow. -/
structure Preferences.Relaxes (q p : Preferences) : Prop where
  convert : p.convert = true → q.convert = true
  allowUnknown : p.allowUnknown = true → q.allowUnknown = true

lemma Preferences.Relaxes.merge {p q : Preferences} (h : q.Relaxes p) (overrides : Entries) :
    (q.merge overrides).Relaxes (p.merge overrides) := by
  constructor <;> simp only [Preferences.merge, Preferences.override]
  · cases lookup? "convert" overrides with
    | none => exact h.convert
    | some v => exact id
  · cases lookup? "allow_unknown" overrides with
    | none => exact h.allowUnknown
    | some v => exact id

/-- A visit under other preferences. -/
def Visit.relaxed (visit : Visit) (q : Preferences) : Visit := { visit with prefs := q }

variable {visit : Visit} {q : Preferences}

/-- Steps that succeed as others do succeed together as those do. -/
lemma foldlM_imp {ε α β : Type} {step step' : α → β → Except ε α} (holds : α → Prop)
    (himp : ∀ a item b, holds a → step a item = .ok b → step' a item = .ok b)
    (hkeep : ∀ a item b, holds a → step a item = .ok b → holds b) {items : List β} {a b : α}
    (ha : holds a) (h : items.foldlM step a = .ok b) : items.foldlM step' a = .ok b := by
  induction items generalizing a with
  | nil => exact h
  | cons item rest ih =>
    rw [List.foldlM_cons] at h ⊢
    obtain ⟨c, hc, hrest⟩ := bind_eq_ok.mp h
    exact bind_eq_ok.mpr ⟨c, himp a item c ha hc, ih (hkeep a item c ha hc) hrest⟩

lemma Visit.refuse_relaxed {α : Type} (issue : Issue) (v : Value) (particulars : Entries) :
    ((visit.relaxed q).refuse issue v particulars : Checked α) =
      visit.refuse issue v particulars := rfl

lemma Visit.convert_relaxed (hq : q.Relaxes visit.prefs) (hp : visit.prefs.convert = true) :
    (visit.relaxed q).prefs.convert = true :=
  hq.convert hp

lemma StringRule.mend_relaxed {issue : Issue} {s mended t : String} {particulars : Entries}
    (hq : q.Relaxes visit.prefs) (h : mend visit issue s mended particulars = .ok t) :
    mend (visit.relaxed q) issue s mended particulars = .ok t := by
  unfold mend at h ⊢
  by_cases hp : visit.prefs.convert = true
  · rw [if_pos hp] at h
    rwa [if_pos (Visit.convert_relaxed hq hp)]
  · rw [if_neg hp] at h
    by_cases heq : s = mended
    · rw [if_pos heq] at h
      rwa [← heq, if_pos rfl, ite_self]
    · rw [if_neg heq] at h
      simp at h

lemma StringRule.check_relaxed (hq : q.Relaxes visit.prefs) (s : String) (rule : StringRule)
    (t : String) (h : rule.check visit s = .ok t) : rule.check (visit.relaxed q) s = .ok t := by
  cases rule with
  | letterCase | trim | normalize => exact mend_relaxed hq h
  | hex byteAligned =>
    by_cases hp : visit.prefs.convert = true
    · simp only [check, checkHex, hp, Visit.convert_relaxed hq hp] at h ⊢
      exact h
    · simp only [check, checkHex, hp] at h ⊢
      split at h
      · simp at h
      · split at h
        · simp at h
        · rename_i hhex halign
          rwa [if_neg hhex, if_neg halign]
  | _ => exact h

lemma NumberRule.check_relaxed (hq : q.Relaxes visit.prefs) (x : Number) (rule : NumberRule)
    (y : Number) (h : rule.check visit x = .ok y) : rule.check (visit.relaxed q) x = .ok y := by
  cases rule with
  | precision limit =>
    by_cases hp : visit.prefs.convert = true
    · simp only [check, checkPrecision, hp, Visit.convert_relaxed hq hp] at h ⊢
      exact h
    · simp only [check, checkPrecision, hp] at h ⊢
      split at h
      · simp at h
      · rename_i htext
        split at h
        · rename_i hplaces
          rwa [if_neg htext, if_pos hplaces]
        · simp at h
  | sign s => cases s <;> exact h
  | _ => exact h

namespace ArrayRule

variable {by_ : KeyPath} {items : List Value} {keys : List (Option Value)} {ks sorted : List Keyed}

/-- Keyed items stand in the places that they are numbered with. -/
lemma getElem?_of_keyed? {i : Nat}
    (hkeys : List.Forall₂ (fun item key => by_.reach item = .ok key) items keys)
    (h : keyed? items keys i = some ks) :
    ks.map (·.item) = items ∧
      ∀ (j : Nat) k, ks[j]? = some k → k.position = i + j ∧ by_.reach k.item = .ok (some k.key) := by
  induction hkeys generalizing ks i with
  | nil =>
    cases h
    exact ⟨rfl, by simp⟩
  | cons hkey _ ih =>
    obtain ⟨key, rfl, hrest⟩ := Option.bind_eq_some_iff.mp h
    obtain ⟨more, hmore, hpure⟩ := Option.bind_eq_some_iff.mp hrest
    cases hpure
    obtain ⟨hitems, hplaces⟩ := ih hmore
    refine ⟨by rw [List.map_cons, hitems], fun j k hj => ?_⟩
    cases j with
    | zero =>
      cases hj
      exact ⟨rfl, hkey⟩
    | succ j =>
      obtain ⟨hposition, hreach⟩ := hplaces j k hj
      exact ⟨by omega, hreach⟩

lemma unmoved_getElem? {i : Nat} (h : unmoved sorted items i = true) {j : Nat} {k : Keyed}
    {item : Value} (hk : sorted[j]? = some k) (hitem : items[j]? = some item) :
    k.position = i + j ∨ k.item.same item = true := by
  induction sorted generalizing items i j with
  | nil => simp at hk
  | cons first rest ih =>
    cases items with
    | nil => simp at hitem
    | cons v others =>
      simp only [unmoved, Bool.and_eq_true, Bool.or_eq_true, beq_iff_eq] at h
      cases j with
      | zero =>
        cases hk
        cases hitem
        exact h.1
      | succ j =>
        rcases ih h.2 hk hitem with hposition | hsame
        · exact Or.inl (by omega)
        · exact Or.inr hsame

end ArrayRule

lemma SortOrder.perm_of_sort? {α : Type} {before? : α → α → Option Bool} {xs ys : List α}
    {order : SortOrder} (h : order.sort? before? xs = some ys) : ys.Perm xs := by
  cases order with
  | ascending => exact InputGuard.perm_of_sort? h
  | descending =>
    obtain ⟨zs, hzs, rfl⟩ := Option.map_eq_some_iff.mp h
    exact (List.reverse_perm zs).trans
      ((InputGuard.perm_of_sort? hzs).trans (List.reverse_perm xs))

lemma SortOrder.sort?_eq_self {α : Type} {before? : α → α → Option Bool} {xs ys : List α}
    {alike : α → α → Prop} {order : SortOrder} (hone : OneWay before? xs)
    (halike : ∀ a a' b b', alike a a' → alike b b' → before? a b = before? a' b')
    (h : order.sort? before? xs = some ys) (hplaces : List.Forall₂ alike ys xs) : ys = xs := by
  cases order with
  | ascending => exact InputGuard.sort?_eq_self hone halike h hplaces
  | descending => exact sortDescending?_eq_self hone halike h hplaces

namespace ArrayRule

variable {by_ : KeyPath} {items items' : List Value} {keys : List (Option Value)}
  {ks sorted : List Keyed} {order : SortOrder}

/-- Items that are taken for sorted are left alone by sorting. -/
lemma map_item_of_unmoved (hitems : ∀ v ∈ items, v.wellKeyed = true)
    (hkeys : items.mapM by_.reach = .ok keys) (hks : keyed? items keys 0 = some ks)
    (hsorted : order.sort? (fun a b => a.key.before? b.key) ks = some sorted)
    (h : unmoved sorted items 0 = true) : sorted.map (·.item) = items := by
  obtain ⟨hmap, hplaces⟩ := getElem?_of_keyed? (mapM_eq_ok.mp hkeys) hks
  have hperm := SortOrder.perm_of_sort? hsorted
  have hitem : ∀ k ∈ ks, k.item.wellKeyed = true := fun k hk =>
    hitems _ (hmap ▸ List.mem_map_of_mem hk)
  have hreach : ∀ k ∈ ks, by_.reach k.item = .ok (some k.key) := by
    intro k hk
    obtain ⟨j, hj⟩ := List.mem_iff_getElem?.mp hk
    exact (hplaces j k hj).2
  have halike : ∀ k ∈ ks, ∀ k' ∈ ks, k.item = k'.item ∨ k.item.same k'.item = true →
      k.key.Alike k'.key := fun k hk k' hk' hsame =>
    KeyPath.alike_of_reach ⟨hitem k hk, hitem k' hk', hsame⟩ (hreach k hk) (hreach k' hk')
  have hkey : ∀ k ∈ ks, k.key.wellKeyed = true := fun k hk =>
    (halike k hk k hk (Or.inl rfl)).left
  have hone : OneWay (fun a b : Keyed => a.key.before? b.key) ks :=
    fun a ha b hb => Value.before?_asymm (hkey a ha) (hkey b hb)
  have hstands : List.Forall₂ (fun a b : Keyed => a.key.Alike b.key) sorted ks := by
    refine List.forall₂_iff_get.mpr ⟨hperm.length_eq, fun j hj hj' => ?_⟩
    have hmem : sorted[j] ∈ ks := hperm.subset (List.getElem_mem hj)
    refine halike sorted[j] hmem ks[j] (List.getElem_mem hj') ?_
    have hb : ks[j]? = some ks[j] := List.getElem?_eq_getElem hj'
    have hbitem : items[j]? = some ks[j].item := by rw [← hmap, List.getElem?_map, hb]; rfl
    refine (unmoved_getElem? h (List.getElem?_eq_getElem hj) hbitem).imp_left fun hposition => ?_
    -- an item with this position is the one that stood here
    obtain ⟨j', ha⟩ := List.mem_iff_getElem?.mp hmem
    have heq : j' = j := by
      have := (hplaces j' _ ha).1
      omega
    rw [heq, hb] at ha
    rw [Option.some.inj ha]
  rw [SortOrder.sort?_eq_self hone (fun _ _ _ _ => Value.before?_congr) hsorted hstands, hmap]

lemma checkSort_relaxed (hq : q.Relaxes visit.prefs) (hitems : ∀ v ∈ items, v.wellKeyed = true)
    (h : checkSort visit order by_ items = .ok items') :
    checkSort (visit.relaxed q) order by_ items = .ok items' := by
  unfold checkSort at h ⊢
  obtain ⟨keys, hkeys, hrest⟩ := bind_eq_ok.mp h
  refine bind_eq_ok.mpr ⟨keys, hkeys, ?_⟩
  split at hrest
  · simp at hrest
  · rename_i sorted hsorted
    by_cases hp : visit.prefs.convert = true
    · rw [if_pos hp] at hrest
      rwa [if_pos (Visit.convert_relaxed hq hp)]
    · rw [if_neg hp] at hrest
      split at hrest
      · rename_i hunmoved
        have hmap : sorted.map (·.item) = items := by
          obtain ⟨ks, hks, hsort⟩ := Option.bind_eq_some_iff.mp hsorted
          exact map_item_of_unmoved hitems (orFault_eq_ok.mp hkeys) hks hsort hunmoved
        rw [if_pos hunmoved, hmap, ite_self]
        exact hrest
      · simp at hrest

lemma check_relaxed (hq : q.Relaxes visit.prefs) (items : List Value) (rule : ArrayRule)
    (items' : List Value) (hitems : ∀ v ∈ items, v.wellKeyed = true)
    (h : rule.check visit items = .ok items') : rule.check (visit.relaxed q) items = .ok items' := by
  cases rule with
  | sort order by_ => exact checkSort_relaxed hq hitems h
  | _ => exact h

/-- A rule for lists passes on the items that it was given, perhaps in another order. -/
lemma perm_of_check {rule : ArrayRule} (h : rule.check visit items = .ok items') :
    items'.Perm items := by
  cases rule with
  | size test limit =>
    simp only [check] at h
    split at h
    · cases h
      exact List.Perm.refl _
    · simp at h
  | sort order by_ =>
    simp only [check, checkSort] at h
    obtain ⟨keys, hkeys, hrest⟩ := bind_eq_ok.mp h
    split at hrest
    · simp at hrest
    · rename_i sorted hsorted
      obtain ⟨ks, hks, hsort⟩ := Option.bind_eq_some_iff.mp hsorted
      obtain ⟨hmap, _⟩ := getElem?_of_keyed? (mapM_eq_ok.mp (orFault_eq_ok.mp hkeys)) hks
      split at hrest
      · rw [← pure_eq_ok.mp hrest, ← hmap]
        exact (SortOrder.perm_of_sort? hsort).map _
      · split at hrest
        · rw [pure_eq_ok.mp hrest]
        · simp at hrest
  | unique by_ =>
    simp only [check, checkUnique] at h
    obtain ⟨keys, _, hrest⟩ := bind_eq_ok.mp h
    split at hrest
    · rw [pure_eq_ok.mp hrest]
    · simp at hrest

lemma wellKeyed_of_check {rule : ArrayRule} (hitems : ∀ v ∈ items, v.wellKeyed = true)
    (h : rule.check visit items = .ok items') : ∀ v ∈ items', v.wellKeyed = true :=
  fun v hv => hitems v ((perm_of_check h).subset hv)

lemma foldlM_check_relaxed (hq : q.Relaxes visit.prefs) {rules : List ArrayRule}
    (hitems : ∀ v ∈ items, v.wellKeyed = true)
    (h : rules.foldlM (fun items rule => rule.check visit items) items = .ok items') :
    rules.foldlM (fun items rule => rule.check (visit.relaxed q) items) items = .ok items' :=
  foldlM_imp (fun items => ∀ v ∈ items, v.wellKeyed = true)
    (fun items rule items' => check_relaxed hq items rule items')
    (fun _ _ _ hitems hcheck => wellKeyed_of_check hitems hcheck) hitems h

end ArrayRule

lemma Value.toNumber_relaxed {anySize : Bool} {v : Value} {x : Number}
    (hq : q.Relaxes visit.prefs) (h : v.toNumber visit anySize = .ok x) :
    v.toNumber (visit.relaxed q) anySize = .ok x := by
  cases v with
  | str s =>
    simp only [toNumber] at h ⊢
    split at h
    · rename_i hp
      rw [if_pos (Visit.convert_relaxed hq hp)]
      exact h
    · simp at h
  | _ => exact h

lemma Value.toBool_relaxed {v : Value} {b : Bool} (hq : q.Relaxes visit.prefs)
    (h : v.toBool visit = .ok b) : v.toBool (visit.relaxed q) = .ok b := by
  cases v with
  | str s =>
    by_cases hp : visit.prefs.convert = true
    · simp only [toBool, hp, Visit.convert_relaxed hq hp, Visit.refuse_relaxed] at h ⊢
      exact h
    · simp [toBool, hp] at h
  | _ => exact h

lemma Value.refuseDate_relaxed (format : Option DateFormat) (v : Value) :
    refuseDate (visit.relaxed q) format v = refuseDate visit format v := by
  cases format <;> rfl

lemma Value.toDate_relaxed {format : Option DateFormat} {v : Value} {m : Moment}
    (hq : q.Relaxes visit.prefs) (h : v.toDate visit format = .ok m) :
    v.toDate (visit.relaxed q) format = .ok m := by
  by_cases hp : visit.prefs.convert = true
  · cases v with
    | moment m => exact h
    | _ =>
      simp only [toDate, hp, Visit.convert_relaxed hq hp, Visit.refuse_relaxed,
        refuseDate_relaxed] at h ⊢
      exact h
  · cases v with
    | moment m => exact h
    | _ => simp [toDate, hp] at h

namespace Schema

lemma finish_relaxed (hq : q.Relaxes visit.prefs) (schema : Schema) {v w : Value}
    (hv : v.wellKeyed = true) (h : schema.finish visit v = .ok w) :
    schema.finish (visit.relaxed q) v = .ok w := by
  refine finish_eq_ok_iff.mpr ?_
  cases finish_eq_ok_iff.mp h with
  | any hallowed => exact .any hallowed
  | boolean hb hallowed => exact .boolean (Value.toBool_relaxed hq hb) hallowed
  | date hm hallowed hrules => exact .date (Value.toDate_relaxed hq hm) hallowed hrules
  | number hx hallowed hrules =>
    have hrelaxed := foldlM_imp (fun _ => True)
      (fun x rule y _ => NumberRule.check_relaxed hq x rule y) (fun _ _ _ _ _ => trivial)
      trivial hrules
    exact .number (Value.toNumber_relaxed hq hx) hallowed hrelaxed
  | string hallowed hrules =>
    have hrelaxed := foldlM_imp (fun _ => True)
      (fun s rule t _ => StringRule.check_relaxed hq s rule t) (fun _ _ _ _ _ => trivial)
      trivial hrules
    exact .string hallowed hrelaxed
  | array hallowed hrules =>
    exact .array hallowed (ArrayRule.foldlM_check_relaxed hq (Value.wellKeyed_list.mp hv) hrules)
  | arrayOf hallowed hrules =>
    exact .arrayOf hallowed (ArrayRule.foldlM_check_relaxed hq (Value.wellKeyed_list.mp hv) hrules)
  | object hallowed hrules => exact .object hallowed hrules

lemma finish_wellKeyed (schema : Schema) {v w : Value} (hv : v.wellKeyed = true)
    (h : schema.finish visit v = .ok w) : w.wellKeyed = true := by
  cases finish_eq_ok_iff.mp h with
  | any => exact hv
  | boolean | number | date | string => rfl
  | array _ hrules | arrayOf _ hrules =>
    have hkept := foldlM_keeps (fun items => ∀ v ∈ items, v.wellKeyed = true)
      (fun _ _ _ _ hitems hcheck => ArrayRule.wellKeyed_of_check hitems hcheck)
      (Value.wellKeyed_list.mp hv) hrules
    exact Value.wellKeyed_list.mpr hkept
  | object _ hrules => exact foldlM_eq_self ObjectRule.check_eq hrules ▸ hv

variable {store : Store}

/-- An entry without a schema has the same value afterwards. -/
lemma validateEntry_wellKeyed {tree : Tree} {key : String} {v w : Value}
    (hv : v.wellKeyed = true)
    (hs : ∀ schema, lookup? key tree = some schema → ∀ w,
      schema.validate store (visit.down (.key key)) v = .ok w → w.wellKeyed = true)
    (h : validateEntry store visit tree key v = .ok w) : w.wellKeyed = true := by
  obtain ⟨schema, hlook, hw⟩ | ⟨-, -, rfl⟩ := validateEntry_eq_ok_iff.mp h
  · exact hs schema hlook w hw
  · exact hv

mutual

theorem validate_wellKeyed (visit : Visit) (schema : Schema) (v : Value)
    (hv : v.wellKeyed = true) (w : Value) (h : schema.validate store visit v = .ok w) :
    w.wellKeyed = true := by
  match v with
  | .null =>
    rw [validate] at h
    exact Except.ok.inj h ▸ hv
  | .list items =>
    rw [validate] at h
    cases schema with
    | arrayOf settings rules item =>
      obtain ⟨items', hitems, hfinish⟩ := bind_eq_ok.mp h
      have hitems' := validateItems_wellKeyed _ item 0 items (Value.wellKeyed_list.mp hv) items'
        hitems
      exact finish_wellKeyed _ (Value.wellKeyed_list.mpr hitems') hfinish
    | any | string | number | date | boolean | array | object => exact finish_wellKeyed _ hv h
  | .object entries =>
    rw [validate] at h
    cases schema with
    | object settings rules tree =>
      obtain ⟨entries', hentries, hfinish⟩ := bind_eq_ok.mp h
      obtain ⟨hn, hvalues⟩ := Value.wellKeyed_object.mp hv
      obtain ⟨hkeys, hvalues'⟩ := validateEntries_wellKeyed _ _ entries hvalues entries' hentries
      exact finish_wellKeyed _ (Value.wellKeyed_object.mpr ⟨hkeys ▸ hn, hvalues'⟩) hfinish
    | any | string | number | date | boolean | array | arrayOf => exact finish_wellKeyed _ hv h
  | .bool _ | .number _ | .str _ | .day _ | .pattern _ | .moment _ =>
    exact finish_wellKeyed schema hv h

theorem validateItems_wellKeyed (visit : Visit) (item : Schema) (i : Nat) (items : List Value)
    (hv : ∀ v ∈ items, v.wellKeyed = true) (items' : List Value)
    (h : validateItems store visit item i items = .ok items') :
    ∀ v ∈ items', v.wellKeyed = true := by
  match items with
  | [] =>
    rw [validateItems] at h
    exact Except.ok.inj h ▸ hv
  | v :: rest =>
    obtain ⟨w, ws, hw, hws, rfl⟩ := validateItems_cons_eq_ok.mp h
    rw [List.forall_mem_cons] at hv ⊢
    exact ⟨validate_wellKeyed _ item v hv.1 w hw,
      validateItems_wellKeyed visit item (i + 1) rest hv.2 ws hws⟩

theorem validateEntries_wellKeyed (visit : Visit) (tree : Tree) (entries : List (String × Value))
    (hv : ∀ k v, (k, v) ∈ entries → v.wellKeyed = true) (entries' : Entries)
    (h : validateEntries store visit tree entries = .ok entries') :
    entries'.map (·.1) = entries.map (·.1) ∧
      ∀ k v, (k, v) ∈ entries' → v.wellKeyed = true := by
  match entries with
  | [] =>
    rw [validateEntries] at h
    exact Except.ok.inj h ▸ ⟨rfl, hv⟩
  | (key, v) :: rest =>
    obtain ⟨w, ws, hw, hws, rfl⟩ := (validateEntries_cons_eq_ok store visit tree).mp h
    have hvv := hv key v List.mem_cons_self
    have hwv : w.wellKeyed = true := validateEntry_wellKeyed hvv (fun schema _ w hw =>
      validate_wellKeyed (visit.down (.key key)) schema v hvv w hw) hw
    obtain ⟨hkeys, hrest⟩ := validateEntries_wellKeyed visit tree rest
      (fun k v hmem => hv k v (List.mem_cons_of_mem _ hmem)) ws hws
    refine ⟨by rw [List.map_cons, List.map_cons, hkeys], fun k u hmem => ?_⟩
    rcases List.mem_cons.mp hmem with he | hmem
    · cases he
      exact hwv
    · exact hrest k u hmem

end

lemma validateEntry_relaxed {tree : Tree} {key : String} {v w : Value}
    (hq : q.Relaxes visit.prefs)
    (hs : ∀ schema, lookup? key tree = some schema → ∀ w,
      schema.validate store (visit.down (.key key)) v = .ok w →
        schema.validate store ((visit.down (.key key)).relaxed q) v = .ok w)
    (h : validateEntry store visit tree key v = .ok w) :
    validateEntry store (visit.relaxed q) tree key v = .ok w := by
  refine validateEntry_eq_ok_iff.mpr ?_
  obtain ⟨schema, hlook, hw⟩ | ⟨hlook, hallow, hw⟩ := validateEntry_eq_ok_iff.mp h
  · exact Or.inl ⟨schema, hlook, hs schema hlook w hw⟩
  · exact Or.inr ⟨hlook, hq.allowUnknown hallow, hw⟩

mutual

theorem validate_relaxed {q : Preferences} (visit : Visit) (hq : q.Relaxes visit.prefs)
    (schema : Schema) (v : Value) (hv : v.wellKeyed = true) (w : Value)
    (h : schema.validate store visit v = .ok w) :
    schema.validate store (visit.relaxed q) v = .ok w := by
  have hunder : (q.merge schema.settings.overrides).Relaxes (visit.under schema.settings).prefs :=
    hq.merge _
  match v with
  | .null =>
    rw [validate] at h ⊢
    exact h
  | .list items =>
    rw [validate] at h ⊢
    cases schema with
    | arrayOf settings rules item =>
      obtain ⟨items', hitems, hfinish⟩ := bind_eq_ok.mp h
      rw [Value.wellKeyed_list] at hv
      have hv' := validateItems_wellKeyed _ item 0 items hv items' hitems
      exact bind_eq_ok.mpr ⟨items', validateItems_relaxed _ hunder item 0 items hv items' hitems,
        finish_relaxed hunder _ (Value.wellKeyed_list.mpr hv') hfinish⟩
    | any | string | number | date | boolean | array | object =>
      exact finish_relaxed hunder _ hv h
  | .object entries =>
    rw [validate] at h ⊢
    cases schema with
    | object settings rules tree =>
      obtain ⟨entries', hentries, hfinish⟩ := bind_eq_ok.mp h
      obtain ⟨hn, hvalues⟩ := Value.wellKeyed_object.mp hv
      obtain ⟨hkeys, hvalues'⟩ := validateEntries_wellKeyed _ _ entries hvalues entries' hentries
      exact bind_eq_ok.mpr ⟨entries',
        validateEntries_relaxed _ hunder _ entries hvalues entries' hentries,
        finish_relaxed hunder _ (Value.wellKeyed_object.mpr ⟨hkeys ▸ hn, hvalues'⟩) hfinish⟩
    | any | string | number | date | boolean | array | arrayOf =>
      exact finish_relaxed hunder _ hv h
  | .bool _ | .number _ | .str _ | .day _ | .pattern _ | .moment _ =>
    exact finish_relaxed hunder schema hv h

theorem validateItems_relaxed {q : Preferences} (visit : Visit) (hq : q.Relaxes visit.prefs)
    (item : Schema) (i : Nat) (items : List Value) (hv : ∀ v ∈ items, v.wellKeyed = true)
    (items' : List Value) (h : validateItems store visit item i items = .ok items') :
    validateItems store (visit.relaxed q) item i items = .ok items' := by
  match items with
  | [] =>
    rw [validateItems] at h ⊢
    exact h
  | v :: rest =>
    obtain ⟨w, ws, hw, hws, hcons⟩ := validateItems_cons_eq_ok.mp h
    rw [List.forall_mem_cons] at hv
    have hw' := validate_relaxed (visit.down (.index i)) hq item v hv.1 w hw
    have hws' := validateItems_relaxed visit hq item (i + 1) rest hv.2 ws hws
    exact validateItems_cons_eq_ok.mpr ⟨w, ws, hw', hws', hcons⟩

theorem validateEntries_relaxed {q : Preferences} (visit : Visit) (hq : q.Relaxes visit.prefs)
    (tree : Tree) (entries : List (String × Value)) (hv : ∀ k v, (k, v) ∈ entries → v.wellKeyed = true)
    (entries' : Entries) (h : validateEntries store visit tree entries = .ok entries') :
    validateEntries store (visit.relaxed q) tree entries = .ok entries' := by
  match entries with
  | [] =>
    rw [validateEntries] at h ⊢
    exact h
  | (key, v) :: rest =>
    obtain ⟨w, ws, hw, hws, rfl⟩ := (validateEntries_cons_eq_ok store visit tree).mp h
    have hw' := validateEntry_relaxed hq (fun schema _ w hw =>
      validate_relaxed (visit.down (.key key)) hq schema v (hv key v List.mem_cons_self) w hw) hw
    have hws' := validateEntries_relaxed visit hq tree rest
      (fun k v hmem => hv k v (List.mem_cons_of_mem _ hmem)) ws hws
    exact (validateEntries_cons_eq_ok store _ tree).mpr ⟨w, ws, hw', hws', rfl⟩

end

end Schema

/-- A value that is accepted is accepted with the same result where more is allowed. -/
theorem attempt_relaxed {store : Store} {env : Environment} {schema : Schema} {p q : Preferences}
    {v w : Value} (hq : q.Relaxes p) (hv : v.wellKeyed = true)
    (h : attempt store p env schema v = .ok w) : attempt store q env schema v = .ok w :=
  Schema.validate_relaxed ⟨[], p, env⟩ hq schema v hv w h

/-- Nodes with labels in order, a name that is never trimmed, and a further node. -/
def nodeStore : Store :=
  ⟨[(.input "Node",
    [("labels", .array .plain [.sort .ascending .whole]),
      ("name", .string ⟨[("convert", .bool false)], none⟩ [.trim]),
      ("next", .object .plain [] (.input "Node"))])]⟩

def nodeValue : Value :=
  .object [("labels", .list [.str "a", .str "b", .str "b"]), ("name", .str "root"),
    ("next", .object [("labels", .list []), ("name", .str "leaf")])]

theorem attempt_relaxed_node :
    let env : Environment := .epoch
    let schema : Schema := .object .plain [] (.input "Node")
    nodeValue.wellKeyed = true ∧
      attempt nodeStore ⟨false, false⟩ env schema nodeValue = .ok nodeValue ∧
        attempt nodeStore ⟨true, true⟩ env schema nodeValue = .ok nodeValue := by
  intro env schema
  have hkeyed : nodeValue.wellKeyed = true := by decide
  have hstrict : attempt nodeStore ⟨false, false⟩ env schema nodeValue = .ok nodeValue := rfl
  have hrelaxes : Preferences.Relaxes ⟨true, true⟩ ⟨false, false⟩ := ⟨fun _ => rfl, fun _ => rfl⟩
  exact ⟨hkeyed, hstrict, attempt_relaxed hrelaxes hkeyed hstrict⟩

end InputGuard

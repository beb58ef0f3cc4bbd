import InputGuard.Proofs.Relaxation

/-!
# The places of issues

A check reads the preferences and the environment of a visit, but not its path: that only goes into
what is said of an issue. So the same check below some path has the same result, the same fault, or
the same issue, placed further down. `Placed` says this of two outcomes, and at the same time which
part of the value an issue is about. Where nothing may be converted, that is the part of the value
that came in to which the path of the issue leads. A conversion may change this part or move it, but
the path is in any case that of a part of the value that came in.
-/

namespace InputGuard

/-- The part of a value that a path leads to: keys lead into objects and positions into lists. -/
def Value.at? (v : Value) : Path → Option Value
  | [] => some v
  | .key name :: rest =>
    match v with
    | .object entries => (lookup? name entries).bind (·.at? rest)
    | _ => none
  | .index (.ofNat i) :: rest =>
    match v with
    | .list items => items[i]?.bind (·.at? rest)
    | _ => none
  | .index (.negSucc _) :: _ => none

lemma Value.at?_index (items : List Value) (i : Nat) (rest : Path) :
    (Value.list items).at? (.index i :: rest) = items[i]?.bind (·.at? rest) := rfl

lemma Value.at?_key (entries : Entries) (name : String) (rest : Path) :
    (Value.object entries).at? (.key name :: rest) = (lookup? name entries).bind (·.at? rest) := rfl

/-- The positions of a value: the paths that lead to its parts. -/
inductive Value.Position : Value → Path → Prop
  | here (v : Value) : Position v []
  | entry {entries : Entries} {name : String} {v : Value} {rest : Path}
    (hmem : (name, v) ∈ entries) (h : Position v rest) :
    Position (.object entries) (.key name :: rest)
  | item {items : List Value} {i : Nat} {v : Value} {rest : Path}
    (hitem : items[i]? = some v) (h : Position v rest) :
    Position (.list items) (.index i :: rest)

/-- The visit when the whole value stands below a path. -/
def Visit.below (path : Path) (visit : Visit) : Visit := { visit with path := path ++ visit.path }

/-- The visit of the part of a value that a path leads to. -/
def Visit.follow (visit : Visit) (path : Path) : Visit := { visit with path := visit.path ++ path }

variable {visit : Visit} {path : Path} {α β : Type}

@[simp] lemma Visit.below_prefs : (visit.below path).prefs = visit.prefs := rfl

@[simp] lemma Visit.below_env : (visit.below path).env = visit.env := rfl

lemma Visit.follow_nil (visit : Visit) : visit.follow [] = visit := by
  simp [follow]

lemma Visit.follow_down (visit : Visit) (step : Step) (rest : Path) :
    (visit.down step).follow rest = visit.follow (step :: rest) := by
  simp [follow, down]

lemma Visit.below_down (visit : Visit) (step : Step) :
    (visit.below path).down step = (visit.down step).below path := by
  simp [below, down]

/-- Whether particulars do not use the names that every context has. -/
def unreserved (particulars : Entries) : Bool :=
  ["label", "value", "key"].all fun name => !hasKey name particulars

/-- Outcomes of the same check at a visit and below a path: the same result, the same fault, or the
same issue with one of some parts of the value. -/
inductive Placed (path : Path) (visit : Visit) (part : Path → Value → Prop) :
    Checked α → Checked α → Prop
  | ok (a : α) : Placed path visit part (.ok a) (.ok a)
  | fault (f : Fault) : Placed path visit part (.error (.fault f)) (.error (.fault f))
  | issue {rest : Path} {v : Value} {particulars : Entries} (issue : Issue) (hv : part rest v)
      (hp : unreserved particulars = true) :
    Placed path visit part ((visit.follow rest).refuse issue v particulars)
      (((visit.below path).follow rest).refuse issue v particulars)

namespace Placed

variable {part part' : Path → Value → Prop}

lemma mono {x y : Checked α} (h : Placed path visit part x y)
    (hpart : ∀ rest v, part rest v → part' rest v) : Placed path visit part' x y := by
  cases h with
  | ok a => exact .ok a
  | fault f => exact .fault f
  | issue issue hv hp => exact .issue issue (hpart _ _ hv) hp

lemma here {issue : Issue} {v : Value} {particulars : Entries} (hv : part [] v)
    (hp : unreserved particulars = true) :
    Placed path visit part (visit.refuse issue v particulars : Checked α)
      ((visit.below path).refuse issue v particulars) := by
  have h : Placed path visit part ((visit.follow []).refuse issue v particulars : Checked α)
      (((visit.below path).follow []).refuse issue v particulars) := .issue issue hv hp
  rwa [Visit.follow_nil, Visit.follow_nil] at h

/-- An issue with a part of what a step leads to is an issue with a part of the whole. -/
lemma up {step : Step} {x y : Checked α} (h : Placed path (visit.down step) part x y)
    (hpart : ∀ rest v, part rest v → part' (step :: rest) v) : Placed path visit part' x y := by
  cases h with
  | ok a => exact .ok a
  | fault f => exact .fault f
  | issue issue hv hp =>
    rw [← Visit.below_down, Visit.follow_down, Visit.follow_down]
    exact .issue issue (hpart _ _ hv) hp

/-- What is said of an issue does not depend on the preferences. -/
lemma of_under {settings : Settings} {x y : Checked α}
    (h : Placed path (visit.under settings) part x y) : Placed path visit part x y := by
  cases h with
  | ok a => exact .ok a
  | fault f => exact .fault f
  | issue issue hv hp => exact .issue issue hv hp

lemma orFault (x : Except Fault α) :
    Placed path visit part (InputGuard.orFault x) (InputGuard.orFault x) := by
  cases x with
  | ok a => exact .ok a
  | error f => exact .fault f

lemma bind {x y : Checked α} {f g : α → Checked β} (h : Placed path visit part x y)
    (hnext : ∀ a, x = .ok a → Placed path visit part (f a) (g a)) :
    Placed path visit part (x >>= f) (y >>= g) := by
  cases h with
  | ok a => exact hnext a rfl
  | fault f => exact .fault f
  | issue issue hv hp => exact .issue issue hv hp

/-- Steps that are placed are so together. An issue is with what the steps before have made of what
they were given, which has whatever they keep. -/
lemma foldlM {step step' : α → β → Checked α} {holds : α → Prop} {has : α → Path → Value → Prop}
    (hstep : ∀ a item, Placed path visit (has a) (step a item) (step' a item))
    (hkeep : ∀ a item b, holds a → step a item = .ok b → holds b) (items : List β) {a : α}
    (ha : holds a) :
    Placed path visit (fun rest v => ∃ b, holds b ∧ has b rest v)
      (items.foldlM step a) (items.foldlM step' a) := by
  induction items generalizing a with
  | nil => exact .ok a
  | cons item rest ih =>
    rw [List.foldlM_cons, List.foldlM_cons]
    refine ((hstep a item).mono fun _ _ hv => ⟨a, ha, hv⟩).bind fun b hb => ?_
    exact ih (hkeep a item b ha hb)

end Placed

/-- The parts of a value. -/
def Value.Has (v : Value) (rest : Path) (w : Value) : Prop := v.at? rest = some w

lemma Value.has_self (v : Value) : v.Has [] v := rfl

/-- The whole value, to which no step leads. -/
def Value.Whole (v : Value) (rest : Path) (w : Value) : Prop := rest = [] ∧ w = v

lemma Value.whole_self (v : Value) : v.Whole [] v := ⟨rfl, rfl⟩

/-- A list or one of its items. -/
def Value.WholeOrItem (items : List Value) (rest : Path) (w : Value) : Prop :=
  (Value.list items).Whole rest w ∨ ∃ i : Nat, rest = [.index i] ∧ items[i]? = some w

lemma Placed.whole {issue : Issue} {v : Value} {particulars : Entries}
    (hp : unreserved particulars = true) :
    Placed path visit v.Whole (visit.refuse issue v particulars : Checked α)
      ((visit.below path).refuse issue v particulars) :=
  .here v.whole_self hp

namespace StringRule

lemma require_placed (issue : Issue) (s : String) (holds : Bool) :
    Placed path visit (Value.str s).Whole (require visit issue s holds)
      (require (visit.below path) issue s holds) := by
  unfold require
  split
  · exact .ok s
  · exact .whole rfl

lemma mend_placed (issue : Issue) (s mended : String) {particulars : Entries}
    (hp : unreserved particulars = true) :
    Placed path visit (Value.str s).Whole (mend visit issue s mended particulars)
      (mend (visit.below path) issue s mended particulars) := by
  unfold mend
  rw [Visit.below_prefs]
  split
  · exact .ok mended
  · split
    · exact .ok s
    · exact .whole hp

lemma checkHex_placed (byteAligned : Bool) (s : String) :
    Placed path visit (Value.str s).Whole (checkHex visit byteAligned s)
      (checkHex (visit.below path) byteAligned s) := by
  unfold checkHex
  rw [Visit.below_prefs]
  split
  · exact .whole rfl
  · split
    · split
      · exact .ok _
      · exact .whole rfl
    · exact .ok s

lemma checkSize_placed (test : SizeTest) (limit : LengthLimit) (encoding : Value) (s : String) :
    Placed path visit (Value.str s).Whole (checkSize visit test limit encoding s)
      (checkSize (visit.below path) test limit encoding s) := by
  unfold checkSize
  refine (Placed.orFault _).bind fun n _ => ?_
  split
  · exact .ok s
  · split
    · exact (Placed.whole rfl).bind fun _ _ => .whole rfl
    · exact .whole rfl

lemma checkPattern_placed (p : Pattern) (name : Value) (invert : Bool) (s : String) :
    Placed path visit (Value.str s).Whole (checkPattern visit p name invert s)
      (checkPattern (visit.below path) p name invert s) := by
  unfold checkPattern
  split
  · exact .whole rfl
  · exact .ok s

lemma checkEmail_placed (o : Format.EmailOptions) (s : String) :
    Placed path visit (Value.str s).Whole (checkEmail visit o s)
      (checkEmail (visit.below path) o s) := by
  unfold checkEmail
  refine (Placed.orFault _).bind fun invalid _ => ?_
  split
  · exact .ok s
  · exact .whole rfl

lemma checkIp_placed (o : Format.AddressOptions) (s : String) :
    Placed path visit (Value.str s).Whole (checkIp visit o s) (checkIp (visit.below path) o s) := by
  unfold checkIp
  refine (Placed.orFault _).bind fun holds _ => ?_
  split
  · exact .ok s
  · split
    · exact (Placed.whole rfl).bind fun _ _ => .whole rfl
    · exact .whole rfl

lemma check_placed (s : String) (rule : StringRule) :
    Placed path visit (Value.str s).Whole (rule.check visit s) (rule.check (visit.below path) s) := by
  cases rule with
  | alphanum | token | isoDuration | isoDate | base64 | dataUri | hostname | guid =>
    exact require_placed _ s _
  | creditCard | domain => exact (Placed.orFault _).bind fun _ _ => require_placed _ s _
  | letterCase | trim => exact mend_placed _ s _ rfl
  | normalize => exact mend_placed _ s _ rfl
  | hex byteAligned => exact checkHex_placed byteAligned s
  | size test limit encoding => exact checkSize_placed test limit encoding s
  | pattern p name invert => exact checkPattern_placed p name invert s
  | email o => exact checkEmail_placed o s
  | ip o => exact checkIp_placed o s

end StringRule

namespace NumberRule

lemma require_placed (issue : Issue) (x : Number) (holds : Bool) {particulars : Entries}
    (hp : unreserved particulars = true) :
    Placed path visit (Value.number x).Whole (require visit issue x particulars holds)
      (require (visit.below path) issue x particulars holds) := by
  unfold require
  split
  · exact .ok x
  · exact .whole hp

lemma checkPrecision_placed (limit : Nat) (x : Number) :
    Placed path visit (Value.number x).Whole (checkPrecision visit limit x)
      (checkPrecision (visit.below path) limit x) := by
  unfold checkPrecision
  rw [Visit.below_prefs]
  split
  · exact .fault _
  · split
    · exact .ok x
    · split
      · exact .ok _
      · exact .whole rfl

lemma check_placed (x : Number) (rule : NumberRule) :
    Placed path visit (Value.number x).Whole (rule.check visit x)
      (rule.check (visit.below path) x) := by
  cases rule with
  | bound | integer | port => exact require_placed _ x _ rfl
  | sign s => cases s <;> exact require_placed _ x _ rfl
  | multiple base => exact (Placed.orFault _).bind fun _ _ => require_placed _ x _ rfl
  | precision limit => exact checkPrecision_placed limit x

end NumberRule

lemma DateRule.check_placed (m : Moment) (rule : DateRule) :
    Placed path visit (Value.moment m).Whole (rule.check visit m)
      (rule.check (visit.below path) m) := by
  obtain ⟨bound, limit⟩ := rule
  unfold check
  rw [Visit.below_env]
  cases limit with
  | now | moment =>
    dsimp only
    split
    · exact .ok m
    · exact .whole rfl

namespace ArrayRule

lemma firstDuplicate?_lt {seen keys : List (Option Value)} {i j : Nat}
    (h : firstDuplicate? seen keys = some (i, j)) : i < seen.length + keys.length := by
  induction keys generalizing seen with
  | nil => simp [firstDuplicate?] at h
  | cons key rest ih =>
    rw [firstDuplicate?] at h
    rw [List.length_cons]
    split at h
    · cases h
      omega
    · have hlt := ih h
      rw [List.length_append, List.length_singleton] at hlt
      omega

/-- The one rule whose issue is with a part of the value: the item that occurs again. -/
lemma checkUnique_placed (by_ : KeyPath) (items : List Value) :
    Placed path visit (Value.WholeOrItem items) (checkUnique visit by_ items)
      (checkUnique (visit.below path) by_ items) := by
  unfold checkUnique
  refine (Placed.orFault _).bind fun keys hkeys => ?_
  cases hdup : firstDuplicate? [] keys with
  | none => exact .ok items
  | some positions =>
    obtain ⟨i, j⟩ := positions
    have hlength : items.length = keys.length :=
      (mapM_eq_ok.mp (orFault_eq_ok.mp hkeys)).length_eq
    have hi : i < items.length := by
      have hlt := firstDuplicate?_lt hdup
      rw [List.length_nil, Nat.zero_add] at hlt
      omega
    have hitem : items[i]? = some items[i] := List.getElem?_eq_getElem hi
    have hpart : Value.WholeOrItem items [.index i] items[i] := .inr ⟨i, rfl, hitem⟩
    dsimp only
    rw [hitem]
    cases by_ <;> exact Placed.issue _ hpart rfl

lemma checkSort_placed (order : SortOrder) (by_ : KeyPath) (items : List Value) :
    Placed path visit (Value.WholeOrItem items) (checkSort visit order by_ items)
      (checkSort (visit.below path) order by_ items) := by
  unfold checkSort
  rw [Visit.below_prefs]
  refine (Placed.orFault _).bind fun keys _ => ?_
  split
  · exact .here (.inl (Value.whole_self _)) rfl
  · split
    · exact .ok _
    · split
      · exact .ok items
      · exact .here (.inl (Value.whole_self _)) rfl

lemma check_placed (items : List Value) (rule : ArrayRule) :
    Placed path visit (Value.WholeOrItem items) (rule.check visit items)
      (rule.check (visit.below path) items) := by
  cases rule with
  | size test limit =>
    rw [check, check]
    split
    · exact .ok items
    · exact .here (.inl (Value.whole_self _)) rfl
  | sort order by_ => exact checkSort_placed order by_ items
  | unique by_ => exact checkUnique_placed by_ items

/-- What rules may have made of items: as many, and the same ones where nothing may be converted. -/
structure Remade (visit : Visit) (items items' : List Value) : Prop where
  length : items'.length = items.length
  strict : visit.prefs.convert = false → items' = items

lemma Remade.refl (visit : Visit) (items : List Value) : Remade visit items items :=
  ⟨rfl, fun _ => rfl⟩

lemma Remade.check {items items' items'' : List Value} {rule : ArrayRule}
    (h : Remade visit items items') (hcheck : rule.check visit items' = .ok items'') :
    Remade visit items items'' where
  length := (perm_of_check hcheck).length_eq.trans h.length
  strict hstrict := (check_eq hstrict items' rule items'' hcheck).trans (h.strict hstrict)

end ArrayRule

namespace ObjectRule

lemma checkPeers_placed (names : List String) (entries : Entries) (test : PeerTest) :
    Placed path visit (Value.object entries).Whole (checkPeers visit names entries test)
      (checkPeers (visit.below path) names entries test) := by
  cases test <;> unfold checkPeers <;> dsimp only <;> (repeat' split) <;>
    first
    | exact .ok entries
    | exact .whole rfl

lemma refuseFirst_placed (issue : Issue) (key : MainKey) (entries : Entries)
    (offending : String → Bool) (names : List String) :
    Placed path visit (Value.object entries).Whole
      (refuseFirst visit issue key entries offending names)
      (refuseFirst (visit.below path) issue key entries offending names) := by
  unfold refuseFirst
  cases key with
  | unusable => exact .fault _
  | neverPresent => exact .ok entries
  | text main =>
    dsimp only
    split
    · exact .ok entries
    · cases names.find? offending with
      | none => exact .ok entries
      | some peer => exact .whole rfl

lemma check_placed (entries : Entries) (rule : ObjectRule) :
    Placed path visit (Value.object entries).Whole (rule.check visit entries)
      (rule.check (visit.below path) entries) := by
  cases rule with
  | size test limit =>
    rw [check, check]
    split
    · exact .ok entries
    · exact .whole rfl
  | peers test names => exact checkPeers_placed names entries test
  | with_ | without => exact refuseFirst_placed _ _ entries _ _

end ObjectRule

lemma Settings.permit_placed (settings : Settings) (v : Value) :
    Placed path visit v.Whole (settings.permit visit v) (settings.permit (visit.below path) v) := by
  unfold permit
  cases settings.allowed with
  | none => exact .ok ()
  | some values =>
    dsimp only
    split
    · exact .ok ()
    · exact .whole rfl

lemma Number.require_placed (anySize : Bool) (x : Number) :
    Placed path visit (Value.number x).Whole (x.require visit anySize)
      (x.require (visit.below path) anySize) := by
  unfold require
  split
  · exact .whole rfl
  · exact .whole rfl
  · split
    · exact .ok x
    · exact .whole rfl

lemma Number.ofText_placed (s : String) :
    Placed path visit (Value.str s).Whole (ofText visit s) (ofText (visit.below path) s) := by
  unfold ofText
  split
  · exact .whole rfl
  · exact .fault _
  · exact .ok _
  · exact .ok _
  · split <;> exact .ok _

namespace Value

lemma toBool_placed (v : Value) :
    Placed path visit v.Whole (v.toBool visit) (v.toBool (visit.below path)) := by
  cases v with
  | bool b => exact .ok b
  | str s =>
    unfold toBool
    rw [Visit.below_prefs]
    dsimp only
    split
    · exact .ok _
    · exact .whole rfl
  | null | number | list | object | moment | day | pattern => exact .whole rfl

/-- The number that a text is converted to may be refused in the place of the text. -/
lemma toNumber_placed (anySize : Bool) (v : Value) :
    Placed path visit
      (fun rest w => ∃ u : Value, (visit.prefs.convert = false → u = v) ∧ u.Whole rest w)
      (v.toNumber visit anySize) (v.toNumber (visit.below path) anySize) := by
  have hwhole : ∀ rest w, v.Whole rest w →
      ∃ u : Value, (visit.prefs.convert = false → u = v) ∧ u.Whole rest w :=
    fun _ _ hw => ⟨v, fun _ => rfl, hw⟩
  cases v with
  | number x => exact (Number.require_placed anySize x).mono hwhole
  | str s =>
    unfold toNumber
    rw [Visit.below_prefs]
    dsimp only
    split
    · rename_i hconvert
      have hlax : ∀ {u : Value}, visit.prefs.convert = false → u = .str s :=
        fun hstrict => nomatch hconvert.symm.trans hstrict
      exact ((Number.ofText_placed s).mono fun _ _ hw => ⟨_, hlax, hw⟩).bind fun x _ =>
        (Number.require_placed anySize x).mono fun _ _ hw => ⟨_, hlax, hw⟩
    · exact (Placed.whole rfl).mono hwhole
  | null | bool | list | object | moment | day | pattern => exact (Placed.whole rfl).mono hwhole

lemma refuseDate_placed (format : Option DateFormat) (v : Value) :
    Placed path visit v.Whole (refuseDate visit format v)
      (refuseDate (visit.below path) format v) := by
  cases format <;> exact .whole rfl

lemma toDate_placed (format : Option DateFormat) (v : Value) :
    Placed path visit v.Whole (v.toDate visit format) (v.toDate (visit.below path) format) := by
  unfold toDate
  rw [Visit.below_prefs]
  split
  · exact .orFault _
  · split
    · exact .whole rfl
    · refine (Placed.orFault _).bind fun m _ => ?_
      cases m with
      | some m => exact .ok m
      | none => exact refuseDate_placed format _

end Value

/-- How many items a list has. -/
def Value.itemCount? : Value → Option Nat
  | .list items => some items.length
  | _ => none

/-- The path to a value itself or, if it is a list, to one of its items. -/
def Value.Near (v : Value) (rest : Path) : Prop :=
  rest = [] ∨ ∃ n i : Nat, v.itemCount? = some n ∧ i < n ∧ rest = [.index i]

lemma Value.Near.position {v : Value} {rest : Path} (h : v.Near rest) : v.Position rest := by
  rcases h with rfl | ⟨n, i, hcount, hi, rfl⟩
  · exact .here v
  · cases v with
    | list items =>
      cases hcount
      exact .item (List.getElem?_eq_getElem hi) (.here _)
    | _ => cases hcount

/-- A part of what a value has become, at a path to the value or to an item. If nothing has been
converted by then, it is the part of the value itself. -/
def Value.NearPart (v : Value) (strict : Prop) (rest : Path) (w : Value) : Prop :=
  v.Near rest ∧ (strict → v.Has rest w)

lemma Value.Whole.nearPart {v w u : Value} {rest : Path} {strict : Prop} (h : w.Whole rest u)
    (hw : strict → w = v) : v.NearPart strict rest u := by
  obtain ⟨rfl, rfl⟩ := h
  exact ⟨.inl rfl, fun hstrict => hw hstrict ▸ u.has_self⟩

lemma Value.WholeOrItem.nearPart {items items' : List Value} {u : Value} {rest : Path}
    {strict : Prop} (h : Value.WholeOrItem items' rest u) (hlength : items'.length = items.length)
    (hitems : strict → items' = items) : (Value.list items).NearPart strict rest u := by
  rcases h with hwhole | ⟨i, rfl, hi⟩
  · exact hwhole.nearPart fun hstrict => by rw [hitems hstrict]
  · have hlt : i < items'.length := (List.getElem?_eq_some_iff.mp hi).1
    refine ⟨.inr ⟨items.length, i, rfl, hlength ▸ hlt, rfl⟩, fun hstrict => ?_⟩
    rw [Value.Has, Value.at?_index, ← hitems hstrict, hi]
    rfl

section Kinds

variable {ρ : Type} {strict : Prop}

/-- The allowed values and the rules of a schema, for what a value has become. An issue is with what
the rules before have made of it, which has whatever they keep. -/
lemma Settings.rules_placed (settings : Settings) (value : α → Value)
    {check : Visit → α → ρ → Checked α} {holds : α → Prop} {has : α → Path → Value → Prop} {a : α}
    (hwhole : ∀ rest w, (value a).Whole rest w → has a rest w)
    (hcheck : ∀ b rule, Placed path visit (has b)
      (check visit b rule) (check (visit.below path) b rule))
    (hkeep : ∀ b rule c, holds b → check visit b rule = .ok c → holds c) (rules : List ρ)
    (ha : holds a) :
    Placed path visit (fun rest w => ∃ b, holds b ∧ has b rest w)
      (do
        settings.permit visit (value a)
        return value (← rules.foldlM (check visit) a))
      (do
        settings.permit (visit.below path) (value a)
        return value (← rules.foldlM (check (visit.below path)) a)) := by
  refine ((settings.permit_placed (value a)).mono fun rest w hw => ?_).bind fun _ _ => ?_
  · exact ⟨a, ha, hwhole rest w hw⟩
  · exact (Placed.foldlM hcheck hkeep rules ha).bind fun b _ => .ok (value b)

/-- Rules that have issues with whole values only. -/
lemma Settings.rules_placed_whole (settings : Settings) (value : α → Value)
    {check : Visit → α → ρ → Checked α}
    (hcheck : ∀ b rule, Placed path visit (value b).Whole
      (check visit b rule) (check (visit.below path) b rule))
    (hself : strict → ∀ b rule c, check visit b rule = .ok c → c = b) (rules : List ρ) {a : α}
    {v : Value} (hv : strict → value a = v) :
    Placed path visit (v.NearPart strict)
      (do
        settings.permit visit (value a)
        return value (← rules.foldlM (check visit) a))
      (do
        settings.permit (visit.below path) (value a)
        return value (← rules.foldlM (check (visit.below path)) a)) := by
  have hkeep : ∀ b rule c, (strict → b = a) → check visit b rule = .ok c → strict → c = a :=
    fun b rule c hb hc hs => (hself hs b rule c hc).trans (hb hs)
  refine (settings.rules_placed value (fun _ _ hw => hw) hcheck hkeep rules fun _ => rfl).mono ?_
  rintro rest w ⟨b, hb, hw⟩
  exact hw.nearPart fun hs => by rw [hb hs, hv hs]

end Kinds

/-- An issue with a value as a whole is with the value or with an item of it. -/
lemma Schema.finish_placed (schema : Schema) (v : Value) :
    Placed path visit (v.NearPart (visit.prefs.convert = false ∧ ∀ m, v ≠ .moment m))
      (schema.finish visit v) (schema.finish (visit.below path) v) := by
  have hwhole : ∀ rest w, v.Whole rest w →
      v.NearPart (visit.prefs.convert = false ∧ ∀ m, v ≠ .moment m) rest w :=
    fun _ _ hw => hw.nearPart fun _ => rfl
  cases schema with
  | any settings => exact ((settings.permit_placed v).mono hwhole).bind fun _ _ => .ok v
  | boolean settings =>
    refine (v.toBool_placed.mono hwhole).bind fun b hb => ?_
    refine ((settings.permit_placed (Value.bool b)).mono fun _ _ hw => ?_).bind
      fun _ _ => .ok (Value.bool b)
    exact hw.nearPart fun hstrict => (Value.toBool_eq hstrict.1 hb).symm
  | date settings rules format =>
    refine ((v.toDate_placed format).mono hwhole).bind fun m hm => ?_
    -- Where nothing may be converted, only dates come this far.
    have hlax : ¬(visit.prefs.convert = false ∧ ∀ m, v ≠ .moment m) :=
      fun hstrict => Value.toDate_ne_ok hstrict.1 hstrict.2 hm
    exact settings.rules_placed_whole Value.moment (fun m rule => rule.check_placed m)
      (fun hstrict => absurd hstrict hlax) rules fun hstrict => absurd hstrict hlax
  | number settings rules anySize =>
    refine ((v.toNumber_placed anySize).mono ?_).bind fun x hx => ?_
    · rintro rest w ⟨u, hu, hw⟩
      exact hw.nearPart fun hstrict => hu hstrict.1
    · exact settings.rules_placed_whole Value.number (fun x rule => rule.check_placed x)
        (fun hstrict => NumberRule.check_eq hstrict.1) rules
        fun hstrict => (Value.toNumber_eq hstrict.1 hx).symm
  | string settings rules =>
    cases v with
    | str s =>
      exact settings.rules_placed_whole Value.str (fun s rule => rule.check_placed s)
        (fun hstrict => StringRule.check_eq hstrict.1) rules fun _ => rfl
    | null | bool | number | list | object | moment | day | pattern =>
      exact (Placed.whole rfl).mono hwhole
  | array settings rules | arrayOf settings rules item =>
    cases v with
    | list items =>
      refine (settings.rules_placed Value.list (fun _ _ => .inl)
        (fun items rule => rule.check_placed items) (fun _ _ _ => ArrayRule.Remade.check) rules
        (.refl visit items)).mono ?_
      rintro rest w ⟨items', hitems', hw⟩
      exact hw.nearPart hitems'.length fun hstrict => hitems'.strict hstrict.1
    | null | bool | number | str | object | moment | day | pattern =>
      exact (Placed.whole rfl).mono hwhole
  | object settings rules tree =>
    cases v with
    | object entries =>
      exact settings.rules_placed_whole Value.object (fun entries rule => rule.check_placed entries)
        (fun _ => ObjectRule.check_eq) rules fun _ => rfl
    | null | bool | number | str | list | moment | day | pattern =>
      exact (Placed.whole rfl).mono hwhole

variable {store : Store}

/-- Whether a check passes a value on as it is, if at all: nothing may be converted, and there is no
date in it that would be put on a universal clock. -/
structure Schema.Strict (store : Store) (visit : Visit) (schema : Schema) (v : Value) : Prop where
  convert : visit.prefs.convert = false
  requests : schema.requestsConversion store = false
  timeless : v.timeless = true
  wellKeyed : v.wellKeyed = true

namespace Schema.Strict

variable {schema item : Schema} {settings : Settings} {v : Value}

lemma under (h : schema.Strict store visit v) :
    schema.Strict store (visit.under schema.settings) v :=
  ⟨Visit.convert_under h.convert (converts_eq_false h.requests), h.requests, h.timeless,
    h.wellKeyed⟩

lemma ne_moment (h : schema.Strict store visit v) (m : Moment) : v ≠ .moment m := by
  rintro rfl
  exact Bool.noConfusion h.timeless

lemma items {rules : List ArrayRule} (step : Step) {rest : List Value}
    (h : (Schema.arrayOf settings rules item).Strict store visit (.list (v :: rest))) :
    item.Strict store (visit.down step) v ∧
      (Schema.arrayOf settings rules item).Strict store visit (.list rest) := by
  have htimeless : v.timeless = true ∧ Value.timelessItems rest = true := by
    simpa [Value.timeless, Value.timelessItems] using h.timeless
  obtain ⟨hv, hrest⟩ := List.forall_mem_cons.mp (Value.wellKeyed_list.mp h.wellKeyed)
  exact ⟨⟨h.convert, requestsConversion_of_leads (.item .self) h.requests, htimeless.1, hv⟩,
    ⟨h.convert, h.requests, htimeless.2, Value.wellKeyed_list.mpr hrest⟩⟩

lemma entries {rules : List ObjectRule} {tree : TreeName} {key : String} {rest : Entries}
    (h : (Schema.object settings rules tree).Strict store visit (.object ((key, v) :: rest))) :
    (∀ s, lookup? key (store.tree tree) = some s → s.Strict store (visit.down (.key key)) v) ∧
      (Schema.object settings rules tree).Strict store visit (.object rest) := by
  have htimeless : v.timeless = true ∧ Value.timelessEntries rest = true := by
    simpa [Value.timeless, Value.timelessEntries] using h.timeless
  obtain ⟨hn, hvalues⟩ := Value.wellKeyed_object.mp h.wellKeyed
  refine ⟨fun s hlook => ?_, h.convert, h.requests, htimeless.2, ?_⟩
  · exact ⟨h.convert, requestsConversion_of_leads (.entry .self (mem_of_lookup? hlook)) h.requests,
      htimeless.1, hvalues key v List.mem_cons_self⟩
  · exact Value.wellKeyed_object.mpr
      ⟨(List.nodup_cons.mp hn).2, fun k w hmem => hvalues k w (List.mem_cons_of_mem _ hmem)⟩

lemma items_eq {rules : List ArrayRule} {i : Nat} {values values' : List Value}
    (h : (Schema.arrayOf settings rules item).Strict store visit (.list values))
    (hok : validateItems store visit item i values = .ok values') : values' = values :=
  validateItems_eq_self visit h.convert item (requestsConversion_of_leads (.item .self) h.requests)
    i values h.timeless values' hok

lemma entries_eq {rules : List ObjectRule} {tree : TreeName} {values values' : Entries}
    (h : (Schema.object settings rules tree).Strict store visit (.object values))
    (hok : validateEntries store visit (store.tree tree) values = .ok values') : values' = values :=
  validateEntries_eq_self visit h.convert (store.tree tree)
    (fun _ _ hlook => requestsConversion_of_leads (.entry .self (mem_of_lookup? hlook)) h.requests)
    values h.timeless values' hok

end Schema.Strict

/-- A position of a value. If nothing has been converted, it is that of the given part. -/
def Value.PartAt (v : Value) (strict : Prop) (rest : Path) (w : Value) : Prop :=
  v.Position rest ∧ (strict → v.Has rest w)

lemma Value.PartAt.imp {v w : Value} {strict strict' : Prop} {rest : Path}
    (h : v.PartAt strict rest w) (hstrict : strict' → strict) : v.PartAt strict' rest w :=
  ⟨h.1, fun hs => h.2 (hstrict hs)⟩

namespace Schema

/-- The check of an entry is placed if the check of its value is. -/
lemma validateEntry_placed {part : Path → Value → Prop} {tree : Tree} {key : String} {v : Value}
    (hs : ∀ s, lookup? key tree = some s →
      Placed path (visit.down (.key key)) (fun rest w => part (.key key :: rest) w)
        (s.validate store (visit.down (.key key)) v)
        (s.validate store ((visit.down (.key key)).below path) v))
    (hv : part [.key key] v) :
    Placed path visit part (validateEntry store visit tree key v)
      (validateEntry store (visit.below path) tree key v) := by
  unfold validateEntry
  rw [Visit.below_down, Visit.below_prefs]
  cases hlook : lookup? key tree with
  | some s => exact (hs s hlook).up fun _ _ hw => hw
  | none =>
    dsimp only
    split
    · exact .ok v
    · have hhere : Placed path (visit.down (.key key)) (fun rest w => part (.key key :: rest) w)
          ((visit.down (.key key)).refuse .objectUnknown v [] : Checked Value)
          (((visit.down (.key key)).below path).refuse .objectUnknown v []) := .here hv rfl
      exact hhere.up fun _ _ hw => hw

/-- A check of the items of a list leaves as many items as there were. -/
lemma length_of_validateItems {item : Schema} {i : Nat} {items items' : List Value}
    (h : validateItems store visit item i items = .ok items') : items'.length = items.length := by
  induction items generalizing i items' with
  | nil =>
    rw [validateItems] at h
    rw [← Except.ok.inj h]
  | cons v rest ih =>
    obtain ⟨w, ws, -, hws, rfl⟩ := validateItems_cons_eq_ok.mp h
    rw [List.length_cons, List.length_cons, ih hws]

/-- An issue with what a value has become is at a position of the value, and with the part of the
value there where the check is strict. -/
lemma finish_under_placed (schema : Schema) {v w : Value} (hcount : w.itemCount? = v.itemCount?)
    (hw : schema.Strict store visit v → w = v) :
    Placed path visit (v.PartAt (schema.Strict store visit v))
      (schema.finish (visit.under schema.settings) w)
      (schema.finish ((visit.below path).under schema.settings) w) := by
  apply Placed.of_under
  refine (schema.finish_placed w).mono fun rest u hu => ⟨?_, fun hstrict => ?_⟩
  · have hnear : v.Near rest := by
      rw [Value.Near, ← hcount]
      exact hu.1
    exact hnear.position
  · obtain rfl := hw hstrict
    exact hu.2 ⟨hstrict.under.convert, hstrict.ne_moment⟩

mutual

theorem validate_located (path : Path) (visit : Visit) (schema : Schema) (v : Value) :
    Placed path visit (v.PartAt (schema.Strict store visit v))
      (schema.validate store visit v) (schema.validate store (visit.below path) v) := by
  match v with
  | .null =>
    rw [validate, validate]
    exact .ok Value.null
  | .list items =>
    rw [validate, validate]
    cases schema with
    | arrayOf settings rules item =>
      have hitems := validateItems_located path (visit.under settings) settings rules item 0 items
      refine (hitems.mono ?_).of_under.bind fun items' hok => ?_
      · rintro rest w ⟨j, v, inner, hj, rfl, hv⟩
        rw [Nat.zero_add]
        refine ⟨.item hj hv.1, fun hstrict => ?_⟩
        rw [Value.Has, Value.at?_index, hj]
        exact hv.2 hstrict.under
      · exact finish_under_placed _ (congrArg some (length_of_validateItems hok))
          fun hstrict => by rw [hstrict.under.items_eq hok]
    | any | string | number | date | boolean | array | object =>
      exact finish_under_placed _ rfl fun _ => rfl
  | .object entries =>
    rw [validate, validate]
    cases schema with
    | object settings rules tree =>
      have hentries := validateEntries_located path (visit.under settings) settings rules tree
        entries
      refine (hentries.mono ?_).of_under.bind fun entries' hok => ?_
      · rintro rest w ⟨key, v, inner, hmem, rfl, hv⟩
        refine ⟨.entry hmem hv.1, fun hstrict => ?_⟩
        have hn := (Value.wellKeyed_object.mp hstrict.wellKeyed).1
        rw [Value.Has, Value.at?_key, lookup?_of_mem hn hmem]
        exact hv.2 hstrict.under
      · exact finish_under_placed _ rfl fun hstrict => by rw [hstrict.under.entries_eq hok]
    | any | string | number | date | boolean | array | arrayOf =>
      exact finish_under_placed _ rfl fun _ => rfl
  | .bool _ | .number _ | .str _ | .day _ | .pattern _ | .moment _ =>
    exact finish_under_placed schema rfl fun _ => rfl

theorem validateItems_located (path : Path) (visit : Visit) (settings : Settings)
    (rules : List ArrayRule) (item : Schema) (i : Nat) (items : List Value) :
    Placed path visit
      (fun rest w => ∃ (j : Nat) (v : Value) (inner : Path), items[j]? = some v ∧
        rest = .index (i + j : Nat) :: inner ∧
        v.PartAt ((Schema.arrayOf settings rules item).Strict store visit (.list items)) inner w)
      (validateItems store visit item i items)
      (validateItems store (visit.below path) item i items) := by
  match items with
  | [] =>
    rw [validateItems, validateItems]
    exact .ok []
  | v :: rest =>
    rw [validateItems, validateItems, Visit.below_down]
    refine Placed.bind ((validate_located path (visit.down (.index i)) item v).up ?_) fun w _ => ?_
    · intro inner u hu
      exact ⟨0, v, inner, rfl, rfl, hu.imp fun hstrict => (hstrict.items (.index i)).1⟩
    · refine Placed.bind ((validateItems_located path visit settings rules item (i + 1) rest).mono ?_)
        fun ws _ => .ok (w :: ws)
      rintro below u ⟨j, x, inner, hj, rfl, hx⟩
      refine ⟨j + 1, x, inner, hj, ?_, hx.imp fun hstrict => (hstrict.items (.index i)).2⟩
      rw [Nat.add_right_comm, Nat.add_assoc]

theorem validateEntries_located (path : Path) (visit : Visit) (settings : Settings)
    (rules : List ObjectRule) (tree : TreeName) (entries : List (String × Value)) :
    Placed path visit
      (fun rest w => ∃ (key : String) (v : Value) (inner : Path), (key, v) ∈ entries ∧
        rest = .key key :: inner ∧
        v.PartAt ((Schema.object settings rules tree).Strict store visit (.object entries)) inner w)
      (validateEntries store visit (store.tree tree) entries)
      (validateEntries store (visit.below path) (store.tree tree) entries) := by
  match entries with
  | [] =>
    rw [validateEntries, validateEntries]
    exact .ok []
  | (key, v) :: rest =>
    rw [validateEntries_cons, validateEntries_cons]
    refine Placed.bind (validateEntry_placed (fun s hlook => ?_) ?_) fun w _ => ?_
    · refine (validate_located path (visit.down (.key key)) s v).mono ?_
      intro inner u hu
      exact ⟨key, v, inner, List.mem_cons_self, rfl, hu.imp fun hstrict => hstrict.entries.1 s hlook⟩
    · exact ⟨key, v, [], List.mem_cons_self, rfl, .here v, fun _ => v.has_self⟩
    · refine Placed.bind ((validateEntries_located path visit settings rules tree rest).mono ?_)
        fun ws _ => .ok ((key, w) :: ws)
      rintro below u ⟨k, x, inner, hmem, rfl, hx⟩
      exact ⟨k, x, inner, List.mem_cons_of_mem _ hmem, rfl, hx.imp fun hstrict => hstrict.entries.2⟩

end

theorem validate_placed (path : Path) (visit : Visit) (schema : Schema) (v : Value) :
    Placed path visit (fun rest w => schema.Strict store visit v → v.Has rest w)
      (schema.validate store visit v) (schema.validate store (visit.below path) v) :=
  (validate_located path visit schema v).mono fun _ _ hw => hw.2

end Schema

end InputGuard

import InputGuard.Proofs.Lookup
import InputGuard.Proofs.StrictChecks

/-!
# Laws of peers

The rules about peers decide laws on which keys an object has: all of some keys or none, not all, at
least one, at most one, exactly one, and for a main key all or none of the others. A key counts with
whatever value, null among them. An object that the law holds of is passed on as it is, and any other
is refused with what breaks the law.
-/

namespace InputGuard

/-- The law of a test on several keys, where `keys` are those of the object. -/
def PeerTest.Law (keys names : List String) : PeerTest → Prop
  | allOrNone => (∀ n ∈ names, n ∈ keys) ∨ ∀ n ∈ names, n ∉ keys
  | notAll => ¬∀ n ∈ names, n ∈ keys
  | someOf => ∃ n ∈ names, n ∈ keys
  | atMostOne => ∀ n ∈ names, ∀ m ∈ names, n ∈ keys → m ∈ keys → n = m
  | exactlyOne => ∃! n, n ∈ names ∧ n ∈ keys

/-- What a test that fails reports. The keys that are present and those that are missing are named in
the order of the rule. -/
def PeerTest.Complaint (keys names : List String) :
    PeerTest → Issue → Entries → Prop
  | allOrNone, issue, particulars =>
    issue = .objectAnd ∧ particulars =
      [("present", .strings (names.filter (· ∈ keys))),
        ("missing", .strings (names.filter (· ∉ keys)))]
  | notAll, issue, particulars =>
    issue = .objectNand ∧
      particulars = [("main", .str (names.headD "")), ("peers", .strings names.tail)]
  | someOf, issue, particulars =>
    issue = .objectMissing ∧ particulars = [("peers", .strings names)]
  | atMostOne, issue, particulars =>
    issue = .objectOxor ∧ particulars =
      [("peers", .strings names), ("present", .strings (names.filter (· ∈ keys)))]
  | exactlyOne, issue, particulars =>
    (∀ n ∈ names, n ∉ keys) ∧ issue = .objectMissing ∧ particulars = [("peers", .strings names)] ∨
      (∃ n ∈ names, n ∈ keys) ∧ issue = .objectXor ∧ particulars =
        [("peers", .strings names), ("present", .strings (names.filter (· ∈ keys)))]

/-- Whether a main key is among the keys of an object. -/
def MainKey.IsIn (keys : List String) : MainKey → Prop
  | text name => name ∈ keys
  | _ => False

/-- What a failing dependency on a main key reports: the key and the first peer that breaks it. -/
def MainKey.Complaint (main : MainKey) (breaks : String → Prop) (names : List String)
    (particulars : Entries) : Prop :=
  ∃ key before peer after, main = .text key ∧ names = before ++ peer :: after ∧
    (∀ n ∈ before, ¬breaks n) ∧ breaks peer ∧
      particulars = [("main", .str key), ("peer", .str peer)]

namespace ObjectRule

/-- The law of a rule for objects. -/
def Law (keys : List String) : ObjectRule → Prop
  | size test limit => test.holds keys.length limit = true
  | peers test names => test.Law keys names
  | with_ main names => main.IsIn keys → ∀ n ∈ names, n ∈ keys
  | without main names => main.IsIn keys → ∀ n ∈ names, n ∉ keys

/-- What a rule for objects that fails reports. -/
def Complaint (keys : List String) : ObjectRule → Issue → Entries → Prop
  | size test limit, issue, particulars =>
    issue = sizeIssue test ∧ particulars = [("limit", .int limit)]
  | peers test names, issue, particulars => test.Complaint keys names issue particulars
  | with_ main names, issue, particulars =>
    issue = .objectWith ∧ main.Complaint (· ∉ keys) names particulars
  | without main names, issue, particulars =>
    issue = .objectWithout ∧ main.Complaint (· ∈ keys) names particulars

/-- The keys that are counted are distinct, and the main key is one that can be looked for. -/
def WellPosed : ObjectRule → Prop
  | size _ _ => True
  | peers _ names => names.Nodup
  | with_ main _ | without main _ => main ≠ .unusable

end ObjectRule

/-- A check passes a value on if a law holds, and else refuses it with an expected issue. -/
structure Decides {α : Type} (visit : Visit) (v : Value) (outcome : Checked α) (passed : α)
    (law : Prop) (complaint : Issue → Entries → Prop) : Prop where
  passes : outcome = .ok passed ↔ law
  fails : ¬law → ∃ issue particulars, complaint issue particulars ∧
    outcome = visit.refuse issue v particulars

namespace Decides

variable {α : Type} {visit : Visit} {v : Value} {outcome : Checked α} {passed : α} {law : Prop}
  {complaint : Issue → Entries → Prop}

lemma of_pass (hlaw : law) (h : outcome = .ok passed) :
    Decides visit v outcome passed law complaint :=
  ⟨iff_of_true h hlaw, fun hn => absurd hlaw hn⟩

lemma of_refuse (hlaw : ¬law) {issue : Issue} {particulars : Entries}
    (hcomplaint : complaint issue particulars)
    (h : outcome = visit.refuse issue v particulars) :
    Decides visit v outcome passed law complaint := by
  refine ⟨iff_of_false ?_ hlaw, fun _ => ⟨issue, particulars, hcomplaint, h⟩⟩
  rw [h]
  exact Visit.refuse_ne_ok _ _ _ _

/-- A single test decides the law that it amounts to. -/
lemma of_test {test : Prop} [Decidable test] (hlaw : test ↔ law) {issue : Issue}
    {particulars : Entries} (hcomplaint : complaint issue particulars) :
    Decides visit v (if test then .ok passed else visit.refuse issue v particulars) passed law
      complaint := by
  split
  · rename_i hpass
    exact of_pass (hlaw.mp hpass) rfl
  · rename_i hfail
    exact of_refuse (mt hlaw.mpr hfail) hcomplaint rfl

lemma map {β : Type} (f : α → β)
    (h : Decides visit v outcome passed law complaint) :
    Decides visit v (f <$> outcome) (f passed) law complaint := by
  by_cases hlaw : law
  · have hpass := h.passes.mpr hlaw
    exact of_pass hlaw (by rw [hpass]; rfl)
  · obtain ⟨issue, particulars, hcomplaint, hrefuse⟩ := h.fails hlaw
    exact of_refuse hlaw hcomplaint (by rw [hrefuse]; rfl)

end Decides

lemma hasKey_eq {α : Type} (name : String) (entries : List (String × α)) :
    hasKey name entries = decide (name ∈ entries.map (·.1)) := by
  unfold hasKey
  induction entries with
  | nil => rfl
  | cons entry rest ih =>
    obtain ⟨k, v⟩ := entry
    by_cases hk : k = name
    · simp [lookup?, hk]
    · have hk' : name ≠ k := fun h => hk h.symm
      simp [lookup?, hk, hk', ih]

/-- An object that passes keeps its keys. -/
lemma map_fst_of_validateEntries {store : Store} {visit : Visit} {tree : Tree}
    {entries entries' : Entries}
    (h : Schema.validateEntries store visit tree entries = .ok entries') :
    entries'.map (·.1) = entries.map (·.1) := by
  induction entries generalizing entries' with
  | nil =>
    rw [Schema.validateEntries] at h
    rw [← Except.ok.inj h]
  | cons entry rest ih =>
    obtain ⟨key, v⟩ := entry
    obtain ⟨w, ws, _, hws, rfl⟩ := (Schema.validateEntries_cons_eq_ok store visit tree).mp h
    rw [List.map_cons, List.map_cons, ih hws]

lemma length_le_one_iff {α : Type} {xs : List α} (hn : xs.Nodup) :
    xs.length ≤ 1 ↔ ∀ x ∈ xs, ∀ y ∈ xs, x = y := by
  match xs with
  | [] => simp
  | [x] => simp
  | x :: y :: rest =>
    have hne : x ≠ y := fun h => (List.nodup_cons.mp hn).1 (h ▸ List.mem_cons_self)
    constructor
    · intro h
      simp at h
    · intro h
      exact absurd (h x (by simp) y (by simp)) hne

lemma PeerTest.exactlyOne_law {keys names : List String} :
    exactlyOne.Law keys names ↔ someOf.Law keys names ∧ atMostOne.Law keys names := by
  constructor
  · rintro ⟨n, ⟨hn, hkey⟩, hunique⟩
    refine ⟨⟨n, hn, hkey⟩, fun m hm m' hm' hkey' hkey'' => ?_⟩
    exact (hunique m ⟨hm, hkey'⟩).trans (hunique m' ⟨hm', hkey''⟩).symm
  · rintro ⟨⟨n, hn, hkey⟩, hone⟩
    exact ⟨n, ⟨hn, hkey⟩, fun m hm => hone m hm.1 n hn hm.2 hkey⟩

namespace ObjectRule

variable {visit : Visit} {entries : Entries} {names : List String}

lemma present_eq : present entries names = names.filter (· ∈ entries.map (·.1)) := by
  unfold present
  congr 1
  funext n
  exact hasKey_eq n entries

lemma isEmpty_present :
    (present entries names).isEmpty = true ↔ ∀ n ∈ names, n ∉ entries.map (·.1) := by
  rw [present_eq, List.isEmpty_iff, List.filter_eq_nil_iff]
  simp only [decide_eq_true_eq]

lemma length_present :
    (present entries names).length = names.length ↔ ∀ n ∈ names, n ∈ entries.map (·.1) := by
  rw [present_eq, List.length_filter_eq_length_iff]
  simp only [decide_eq_true_eq]

lemma length_present_le_one (hn : names.Nodup) :
    (present entries names).length ≤ 1 ↔ PeerTest.atMostOne.Law (entries.map (·.1)) names := by
  rw [present_eq, length_le_one_iff (hn.filter _)]
  simp only [List.mem_filter, decide_eq_true_eq, and_imp]
  constructor
  · intro h n hn m hm hkey hkey'
    exact h n hn hkey m hm hkey'
  · intro h n hn hkey m hm hkey'
    exact h n hn m hm hkey hkey'

lemma some_iff :
    (!(present entries names).isEmpty) = true ↔
      PeerTest.someOf.Law (entries.map (·.1)) names := by
  rw [Bool.not_eq_true', ← Bool.not_eq_true, isEmpty_present, PeerTest.Law]
  push Not
  rfl

lemma filter_not_present :
    (names.filter fun n => !(present entries names).contains n) =
      names.filter (· ∉ entries.map (·.1)) := by
  apply List.filter_congr
  intro n hn
  simp [present_eq, hn]

lemma checkPeers_decides (visit : Visit) (entries : Entries) (hn : names.Nodup) (test : PeerTest) :
    Decides visit (.object entries) (checkPeers visit names entries test) entries
      (test.Law (entries.map (·.1)) names) (test.Complaint (entries.map (·.1)) names) := by
  cases test with
  | allOrNone =>
    have hlaw : ((present entries names).isEmpty ||
        decide ((present entries names).length = names.length)) = true ↔
          PeerTest.allOrNone.Law (entries.map (·.1)) names := by
      rw [Bool.or_eq_true, isEmpty_present, decide_eq_true_iff, length_present]
      exact or_comm
    exact .of_test hlaw ⟨rfl, by rw [filter_not_present, present_eq]⟩
  | notAll => exact .of_test (not_congr length_present) ⟨rfl, rfl⟩
  | someOf => exact .of_test some_iff ⟨rfl, rfl⟩
  | atMostOne => exact .of_test (length_present_le_one hn) ⟨rfl, by rw [present_eq]⟩
  | exactlyOne =>
    rw [checkPeers]
    split
    · rename_i hnone
      have hmissing := isEmpty_present.mp hnone
      refine .of_refuse ?_ (Or.inl ⟨hmissing, rfl, rfl⟩) rfl
      rintro ⟨n, ⟨hn, hkey⟩, -⟩
      exact hmissing n hn hkey
    · rename_i hsome
      have hlaw : PeerTest.someOf.Law (entries.map (·.1)) names :=
        some_iff.mp (by simpa using hsome)
      have hone : (present entries names).length ≤ 1 ↔
          PeerTest.exactlyOne.Law (entries.map (·.1)) names :=
        (length_present_le_one hn).trans
          ⟨fun h => PeerTest.exactlyOne_law.mpr ⟨hlaw, h⟩, fun h => (PeerTest.exactlyOne_law.mp h).2⟩
      exact .of_test hone (Or.inr ⟨hlaw, rfl, by rw [present_eq]⟩)

lemma refuseFirst_decides (visit : Visit) (entries : Entries) (names : List String)
    {main : MainKey} (hmain : main ≠ .unusable) (issue : Issue) {breaks : String → Prop}
    {offending : String → Bool}
    (hbreaks : ∀ n, offending n = true ↔ breaks n) :
    Decides visit (.object entries) (refuseFirst visit issue main entries offending names) entries
      (main.IsIn (entries.map (·.1)) → ∀ n ∈ names, ¬breaks n)
      (fun issue' particulars => issue' = issue ∧ main.Complaint breaks names particulars) := by
  cases main with
  | unusable => exact absurd rfl hmain
  | neverPresent => exact .of_pass (fun h => h.elim) rfl
  | text key =>
    rw [refuseFirst]
    by_cases hkey : key ∈ entries.map (·.1)
    · have hhere : ¬(!hasKey key entries) = true := by simp [hasKey_eq, hkey]
      rw [if_neg hhere]
      cases hfind : names.find? offending with
      | none =>
        refine .of_pass (fun _ n hn hbreak => ?_) rfl
        exact List.find?_eq_none.mp hfind n hn ((hbreaks n).mpr hbreak)
      | some peer =>
        obtain ⟨hpeer, before, after, hnames, hbefore⟩ := List.find?_eq_some_iff_append.mp hfind
        have hbreak : breaks peer := (hbreaks peer).mp hpeer
        have hmem : peer ∈ names := by simp [hnames]
        refine .of_refuse (fun h => h hkey peer hmem hbreak) ⟨rfl, ?_⟩ rfl
        refine ⟨key, before, peer, after, rfl, hnames, fun n hn hbreak' => ?_, hbreak, rfl⟩
        have hn' := hbefore n hn
        rw [(hbreaks n).mpr hbreak'] at hn'
        cases hn'
    · have hmissing : (!hasKey key entries) = true := by simp [hasKey_eq, hkey]
      rw [if_pos hmissing]
      exact .of_pass (fun h => absurd h hkey) rfl

lemma check_decides (visit : Visit) (entries : Entries) {rule : ObjectRule}
    (hrule : rule.WellPosed) :
    Decides visit (.object entries) (rule.check visit entries) entries
      (rule.Law (entries.map (·.1))) (rule.Complaint (entries.map (·.1))) := by
  cases rule with
  | size test limit =>
    exact .of_test (by rw [Law, List.length_map]) ⟨rfl, rfl⟩
  | peers test names => exact checkPeers_decides visit entries hrule test
  | with_ main names =>
    have hbreaks : ∀ n, (!hasKey n entries) = true ↔ n ∉ entries.map (·.1) := by
      simp [hasKey_eq]
    have h := refuseFirst_decides visit entries names hrule .objectWith hbreaks
    simp only [not_not] at h
    exact h
  | without main names =>
    have hbreaks : ∀ n, hasKey n entries = true ↔ n ∈ entries.map (·.1) := by
      simp [hasKey_eq]
    exact refuseFirst_decides visit entries names hrule .objectWithout hbreaks

end ObjectRule

section Objects

variable {store : Store} {visit : Visit} {settings : Settings} {tree : TreeName}
  {raw entries : Entries}

/-- An object whose entries pass is what its rule makes of them. -/
lemma validate_object_rule (hallowed : settings.allowed = none)
    (hentries : Schema.validateEntries store (visit.under settings) (store.tree tree) raw =
      .ok entries) (rule : ObjectRule) :
    (Schema.object settings [rule] tree).validate store visit (.object raw) =
      Value.object <$> rule.check (visit.under settings) entries := by
  rw [Schema.validate]
  simp only [Schema.tree?, Schema.settings, hentries, bind, Except.bind, Schema.finish,
    Settings.permit, hallowed, List.foldlM_cons, List.foldlM_nil]
  cases rule.check (visit.under settings) entries <;> rfl

/-- Of the two keys that name an article one is there, without a value. -/
def article : Entries := [("slug", .null), ("title", .str "Peers")]

end Objects

end InputGuard

import InputGuard.Proofs.Digits
import InputGuard.Proofs.GuardedCalls
import InputGuard.Proofs.ReportedParts

/-!
# Labels of positions

The label of a path is written from its first step on, and what separates two steps depends on what
has been written before. Read from its end, it needs no memory of that: a dot or an opening bracket is
where a step starts, and what is left over in the end is a name that comes first. If the names in a
path hold none of these marks, reading gives back the path, so different paths have different labels.

The issues of a call are with positions of its arguments. None of them is with the arguments as a
whole, whose label could be that of an argument called `value`.
-/

namespace InputGuard

/-- The characters that stand between the steps of a path in its label. -/
def labelMarks : List Char := ['.', '[', ']']

/-- A key has a name that is not empty and holds no marks. -/
def Step.Named : Step → Prop
  | .key name => name ≠ "" ∧ ∀ c ∈ name.toList, c ∉ labelMarks
  | .index _ => True

/-- A position in a list is counted from the start. -/
def Step.Counted : Step → Prop
  | .key _ => True
  | .index i => 0 ≤ i

instance : DecidablePred Step.Named
  | .key name => decidable_of_iff (name ≠ "" ∧ (name.toList.all (· ∉ labelMarks)) = true) <|
    and_congr_right fun _ => List.all_eq_true.trans (by simp only [decide_eq_true_eq])
  | .index _ => inferInstanceAs (Decidable True)

instance : DecidablePred Step.Counted
  | .key _ => inferInstanceAs (Decidable True)
  | .index i => inferInstanceAs (Decidable (0 ≤ i))

def Path.Named (path : Path) : Prop := ∀ step ∈ path, step.Named

def Path.Counted (path : Path) : Prop := ∀ step ∈ path, step.Counted

instance : DecidablePred Path.Named :=
  fun path => inferInstanceAs (Decidable (∀ step ∈ path, step.Named))

instance : DecidablePred Path.Counted :=
  fun path => inferInstanceAs (Decidable (∀ step ∈ path, step.Counted))

/-- A path that can be told from its label. -/
structure Path.Legible (path : Path) : Prop where
  ne_nil : path ≠ []
  named : path.Named
  counted : path.Counted

variable {label name : String} {step : Step} {path rest : Path}

/-- A step as it is written after others. -/
def Step.text : Step → List Char
  | .key name => '.' :: name.toList
  | .index i => '[' :: ((intText i).toList ++ [']'])

lemma toList_labelFrom (h : label ≠ "") (path : Path) :
    (labelFrom label path).toList = label.toList ++ path.flatMap Step.text := by
  induction path generalizing label with
  | nil => simp [labelFrom]
  | cons step rest ih =>
    have happend : ∀ s : String, label ++ s ≠ "" := by simp [h]
    cases step with
    | key name =>
      rw [labelFrom, if_neg h, String.append_assoc, ih (happend _)]
      simp [Step.text]
    | index i =>
      rw [labelFrom, String.append_assoc, String.append_assoc, ih (happend _)]
      simp [Step.text]

/-- What is left of a path once its first steps have been written is written after them. -/
lemma toList_label (h : label ≠ "") (hpath : labelFrom "" path = labelFrom label rest) :
    path.label.toList = label.toList ++ rest.flatMap Step.text := by
  have hfrom := toList_labelFrom h rest
  have hne : labelFrom label rest ≠ "" := by
    rw [Ne, ← String.toList_eq_nil_iff, hfrom, List.append_eq_nil_iff, String.toList_eq_nil_iff]
    exact fun hnil => h hnil.1
  unfold Path.label
  dsimp only
  rw [hpath, if_neg hne, hfrom]

/-- What has been read of a label from its end: the characters before the next mark that are known,
and the steps after them. -/
structure LabelTail where
  word : List Char
  steps : Path

/-- The end of a label that starts one character earlier. -/
def LabelTail.read (c : Char) (tail : LabelTail) : LabelTail :=
  if c = '.' then ⟨[], .key (String.ofList tail.word) :: tail.steps⟩
  else if c = '[' then ⟨[], .index (digitsValue tail.word) :: tail.steps⟩
  else if c = ']' then ⟨[], tail.steps⟩
  else ⟨c :: tail.word, tail.steps⟩

/-- The path that has a label. -/
def Path.ofLabel (label : String) : Path :=
  let tail := label.toList.foldr LabelTail.read ⟨[], []⟩
  if tail.word = [] then tail.steps else .key (String.ofList tail.word) :: tail.steps

lemma foldr_read_word {word : List Char} (h : ∀ c ∈ word, c ∉ labelMarks) (tail : LabelTail) :
    word.foldr LabelTail.read tail = ⟨word ++ tail.word, tail.steps⟩ := by
  induction word with
  | nil => rfl
  | cons c word ih =>
    obtain ⟨hc, hword⟩ := List.forall_mem_cons.mp h
    simp only [labelMarks, List.mem_cons, List.not_mem_nil, or_false, not_or] at hc
    rw [List.foldr_cons, ih hword, LabelTail.read, if_neg hc.1, if_neg hc.2.1, if_neg hc.2.2,
      List.cons_append]

lemma notMem_labelMarks_of_isDigit {c : Char} (h : c.isDigit = true) : c ∉ labelMarks := by
  have hmarks : (labelMarks.all fun c => !c.isDigit) = true := by decide
  intro hc
  simpa [h] using List.all_eq_true.mp hmarks c hc

lemma toList_intText_natCast (n : ℕ) : (intText n).toList = Nat.toDigits 10 n := by
  unfold intText natText
  rw [if_neg (Int.natCast_nonneg n).not_gt, Int.natAbs_natCast, String.toList_ofList]

/-- A step that is read leaves nothing over. -/
lemma foldr_read_step (hn : step.Named) (hc : step.Counted) (path : Path) :
    step.text.foldr LabelTail.read ⟨[], path⟩ = ⟨[], step :: path⟩ := by
  cases step with
  | key name =>
    rw [Step.text, List.foldr_cons, foldr_read_word hn.2, List.append_nil, LabelTail.read,
      if_pos rfl, String.ofList_toList]
  | index i =>
    obtain ⟨n, rfl⟩ := Int.eq_ofNat_of_zero_le hc
    have hdigits : ∀ c ∈ Nat.toDigits 10 n, c ∉ labelMarks := fun c hc =>
      notMem_labelMarks_of_isDigit (Nat.isDigit_of_mem_toDigits (by decide) (by decide) hc)
    have hclose : [']'].foldr LabelTail.read ⟨[], path⟩ = ⟨[], path⟩ := rfl
    have hopen : LabelTail.read '[' ⟨Nat.toDigits 10 n, path⟩ = ⟨[], .index n :: path⟩ := by
      rw [LabelTail.read, if_neg (by decide), if_pos rfl, digitsValue_toDigits]
    rw [Step.text, toList_intText_natCast, List.foldr_cons, List.foldr_append, hclose,
      foldr_read_word hdigits, List.append_nil, hopen]

lemma foldr_read_steps (hn : path.Named) (hc : path.Counted) :
    (path.flatMap Step.text).foldr LabelTail.read ⟨[], []⟩ = ⟨[], path⟩ := by
  induction path with
  | nil => rfl
  | cons step rest ih =>
    obtain ⟨hname, hnames⟩ := List.forall_mem_cons.mp hn
    obtain ⟨hcount, hcounts⟩ := List.forall_mem_cons.mp hc
    -- The steps after this one have been read before it.
    rw [List.flatMap_cons, List.foldr_append, ih hnames hcounts, foldr_read_step hname hcount]

/-- Reading a label gives the path that it was written for. -/
theorem Path.ofLabel_label (h : path.Legible) : ofLabel path.label = path := by
  obtain ⟨hne, hn, hc⟩ := h
  cases path with
  | nil => exact absurd rfl hne
  | cons step rest =>
    cases step with
    | key name =>
      -- No dot stands before a name that comes first, so it is left over.
      obtain ⟨hname, hnames⟩ := List.forall_mem_cons.mp hn
      have hsteps := foldr_read_steps hnames (List.forall_mem_cons.mp hc).2
      have hword : name.toList ≠ [] := fun hnil => hname.1 (String.toList_eq_nil_iff.mp hnil)
      have htext : (Path.label (.key name :: rest)).toList =
          name.toList ++ rest.flatMap Step.text := toList_label hname.1 rfl
      unfold ofLabel
      rw [htext, List.foldr_append, hsteps, foldr_read_word hname.2, List.append_nil]
      dsimp only
      rw [if_neg hword, String.ofList_toList]
    | index i =>
      have htext : (Path.label (.index i :: rest)).toList =
          (Step.index i :: rest).flatMap Step.text := by
        have hstart : ("" ++ "[" ++ intText i ++ "]").toList = (Step.index i).text := by
          simp [Step.text]
        rw [List.flatMap_cons, ← hstart]
        exact toList_label (by simp) rfl
      unfold ofLabel
      rw [htext, foldr_read_steps hn hc]
      exact if_pos rfl

example : Path.ofLabel "a.b[2].c" = [.key "a", .key "b", .index 2, .key "c"] := by decide

lemma Path.label_inj {p q : Path} (hp : p.Legible) (hq : q.Legible) :
    p.label = q.label ↔ p = q := by
  constructor
  · intro h
    rw [← ofLabel_label hp, h, ofLabel_label hq]
  · exact congrArg label

lemma Value.Position.counted {v : Value} (h : v.Position path) : path.Counted := by
  induction h with
  | here => exact List.forall_mem_nil _
  | entry _ _ ih => exact List.forall_mem_cons.mpr ⟨trivial, ih⟩
  | item _ _ ih => exact List.forall_mem_cons.mpr ⟨Int.natCast_nonneg _, ih⟩

/-- The arguments of a call are refused with a detail, by some guard. -/
def Call.Reports (call : Call) (d : Detail) : Prop :=
  ∃ (ρ : Type) (resolver : Resolver ρ) (config : Config) (store : Store) (env : Environment)
    (run : ρ → Call → Value) (r : Rejection),
    resolver.answer config store env run call = .error (.rejected r) ∧ d ∈ r.details

variable {call : Call} {d : Detail}

lemma validateEntries_of_rejected {config : Config} {store : Store} {env : Environment}
    {tree : TreeName} {arguments : Entries} {r : Rejection}
    (h : guardArguments config store env tree arguments = .error (.rejected r))
    (hd : d ∈ r.details) :
    Schema.validateEntries store ⟨[], ⟨config.convert, config.allowUnknown⟩, env⟩ (store.tree tree)
      arguments = .error (.issue d) := by
  rw [guardArguments_eq] at h
  split at h
  · rename_i detail hissue
    cases h
    rwa [List.mem_singleton.mp hd]
  · cases h
  · cases h

lemma Call.Reports.exists_guard (h : call.Reports d) :
    ∃ (store : Store) (prefs : Preferences) (env : Environment) (tree : TreeName),
      Schema.validateEntries store ⟨[], prefs, env⟩ (store.tree tree) call.arguments =
        .error (.issue d) := by
  obtain ⟨ρ, resolver, config, store, env, run, r, hanswer, hd⟩ := h
  cases resolver with
  | plain handler => cases hanswer
  | guarded handler tree =>
    cases hguard : guardArguments config store env tree call.arguments with
    | ok forwarded =>
      rw [Resolver.answer, answerWith_of_passed hguard] at hanswer
      cases hanswer
    | error e =>
      rw [Resolver.answer, answerWith_of_failed hguard] at hanswer
      cases hanswer
      exact ⟨store, _, env, tree, validateEntries_of_rejected hguard hd⟩

/-- An issue of a call is with a position of its arguments, not with all of them together, and has
the label of this position. -/
lemma Call.Reports.position (h : call.Reports d) :
    d.path ≠ [] ∧ (Value.object call.arguments).Position d.path ∧
      lookup? "label" d.context = some (.str d.path.label) := by
  obtain ⟨store, prefs, env, tree, hissue⟩ := h.exists_guard
  -- A guard asks nothing of the arguments together, so the first step leads to one of them.
  obtain ⟨rest, v, issue, particulars, ⟨key, u, inner, hmem, rfl, hu⟩, -, rfl⟩ :=
    (Schema.validateEntries_located [] ⟨[], prefs, env⟩ .plain [] tree call.arguments).exists_issue
      hissue
  exact ⟨List.cons_ne_nil _ _, .entry hmem hu.1,
    Visit.lookup?_label_context (Visit.follow ⟨[], prefs, env⟩ (.key key :: inner)) v particulars⟩

/-- Labels identify positions: legible paths with the same label are the same. So issues of calls with
the same label are with the same position, if the names on the way to it can be told apart. -/
theorem labels_identify_positions :
    (∀ p q : Path, p.Legible → q.Legible → (p.label = q.label ↔ p = q)) ∧
    (∀ (call : Call) (d : Detail), call.Reports d →
      d.path ≠ [] ∧ (Value.object call.arguments).Position d.path ∧
        lookup? "label" d.context = some (.str d.path.label)) ∧
    ∀ (call call' : Call) (d d' : Detail), call.Reports d → call'.Reports d' →
      d.path.Named → d'.path.Named →
      (lookup? "label" d.context = lookup? "label" d'.context ↔ d.path = d'.path) := by
  refine ⟨fun p q => Path.label_inj, fun call d h => h.position,
    fun call call' d d' h h' hn hn' => ?_⟩
  obtain ⟨hne, hposition, hlabel⟩ := h.position
  obtain ⟨hne', hposition', hlabel'⟩ := h'.position
  rw [hlabel, hlabel', Option.some.injEq, Value.str.injEq]
  exact Path.label_inj ⟨hne, hn, hposition.counted⟩ ⟨hne', hn', hposition'.counted⟩

/-- The arguments of a field that takes rows of texts. -/
def rowStore : Store :=
  ⟨[(.arguments "Query" "join",
    [("rows", .arrayOf .plain [] (.arrayOf .plain [] (.string .plain [])))])]⟩

def rowCall (rows : List (List Value)) : Call :=
  ⟨.null, "join", [("rows", .list (rows.map .list))]⟩

/-- The issue with a truth value in a row. -/
def rowDetail (env : Environment) (row column : Nat) : Detail :=
  Visit.detail ⟨[.key "rows", .index row, .index column], ⟨false, true⟩, env⟩ .stringBase
    (.bool true) []

theorem labels_identify_positions_rows :
    let env : Environment := .epoch
    let p : Path := [.index 1, .index 12]
    let q : Path := [.index 11, .index 2]
    let call := rowCall [[.str "a", .bool true]]
    let call' := rowCall [[.str "a"], [.bool true]]
    let d := rowDetail env 0 1
    let d' := rowDetail env 1 0
    (p.Legible ∧ q.Legible ∧ p.label ≠ q.label) ∧
      (call.Reports d ∧ (Value.object call.arguments).Position d.path) ∧
      (call'.Reports d' ∧ (Value.object call'.arguments).Position d'.path) ∧
      d.path.Named ∧ d'.path.Named ∧ lookup? "label" d.context ≠ lookup? "label" d'.context := by
  intro env p q call call' d d'
  obtain ⟨hlabels, hposition, hissues⟩ := labels_identify_positions
  let resolver : Resolver Unit := .guarded .member (.arguments "Query" "join")
  have hp : p.Legible := ⟨by decide, by decide, by decide⟩
  have hq : q.Legible := ⟨by decide, by decide, by decide⟩
  have hd : call.Reports d := ⟨Unit, resolver, .default, rowStore, env, fun _ _ => .null,
    ⟨[d], "BAD_USER_INPUT"⟩, rfl, List.mem_singleton_self d⟩
  have hd' : call'.Reports d' := ⟨Unit, resolver, .default, rowStore, env, fun _ _ => .null,
    ⟨[d'], "BAD_USER_INPUT"⟩, rfl, List.mem_singleton_self d'⟩
  have hn : d.path.Named := by decide
  have hn' : d'.path.Named := by decide
  have hne : d.path ≠ d'.path := by decide
  exact ⟨⟨hp, hq, (hlabels p q hp hq).not.mpr (by decide)⟩, ⟨hd, (hposition call d hd).2.1⟩,
    ⟨hd', (hposition call' d' hd').2.1⟩, hn, hn',
    (hissues call call' d d' hd hd' hn hn').not.mpr hne⟩

end InputGuard

import InputGuard.Proofs.DeclaredValues
import InputGuard.Proofs.OperationAnswers
import Mathlib.Tactic.FinCases

/-!
# Arguments of declared types

An argument of the directive is read in its form, and then an operation makes a rule of it. The
values of the declared types lead to no fault there, except in a few places: null is nothing that a
symbol, a list or an object can be read from, and the texts of dates and patterns may be beyond what
can be computed with.
-/

namespace InputGuard

open Defined

namespace Value

/-- A value is made up of symbols: it is one, or a list of them; items of lists may be missing. -/
def OfSymbols (v : Value) : Prop :=
  v = .null ∨ (∃ s, v = .str s) ∨ ∃ items, v = .list items ∧ ∀ w ∈ items, w = .null ∨ ∃ s, w = .str s

lemma ofSymbols_lower {v : Value} (h : v.OfSymbols) : (lowerSymbols v).OfSymbols := by
  rcases h with rfl | ⟨s, rfl⟩ | ⟨items, rfl, hitems⟩
  · exact Or.inl rfl
  · exact Or.inr (Or.inl ⟨_, rfl⟩)
  · refine Or.inr (Or.inr ⟨lowerAll items, rfl, ?_⟩)
    induction items with
    | nil => exact fun w hw => nomatch hw
    | cons v rest ih =>
      rw [List.forall_mem_cons] at hitems
      refine List.forall_mem_cons.mpr ⟨?_, ih hitems.2⟩
      rcases hitems.1 with rfl | ⟨s, rfl⟩
      · exact Or.inl rfl
      · exact Or.inr ⟨_, rfl⟩

lemma parts_ofSymbols {v : Value} (hv : v ≠ .null) (h : v.OfSymbols) :
    ∃ ps, v.parts = .ok ps ∧ ∀ p ∈ ps, p = .null ∨ ∃ s, p = .str s := by
  rcases h with rfl | ⟨s, rfl⟩ | ⟨items, rfl, hitems⟩
  · exact absurd rfl hv
  · refine ⟨_, rfl, fun p hp => ?_⟩
    obtain ⟨c, _, rfl⟩ := List.mem_map.mp hp
    exact Or.inr ⟨_, rfl⟩
  · exact ⟨items, rfl, hitems⟩

lemma optionalParts_ofSymbols {v : Value} (h : v.OfSymbols) :
    ∃ ps, v.optionalParts = .ok ps ∧ ∀ p ∈ ps, p = .null ∨ ∃ s, p = .str s := by
  unfold optionalParts
  split
  · rename_i htruthy
    exact parts_ofSymbols (fun hnull => by simp [hnull, truthy] at htruthy) h
  · exact ⟨[], rfl, fun p hp => nomatch hp⟩

/-- An option is missing or found. -/
lemma option_cases (name : String) (entries : Entries) :
    option name entries = .null ∨ lookup? name entries = some (option name entries) := by
  unfold option
  cases lookup? name entries with
  | none => exact Or.inl rfl
  | some w => exact Or.inr rfl

end Value

lemma memberOf_object {name : String} {entries : Entries} (h : hasKey name entries = true) :
    ∃ w, lookup? name entries = some w ∧ memberOf name (.object entries) = .ok w := by
  obtain ⟨w, hw⟩ := hasKey_iff.mp h
  exact ⟨w, hw, by simp [memberOf, hw]⟩

/-- An option can be changed if its value can; the other ones stay as they are. -/
lemma exists_mapOption {name : String} {f : Value → Defined Value} {entries : Entries}
    {holds : Value → Prop}
    (h : ∀ v, lookup? name entries = some v → v ≠ .null → ∃ w, f v = .ok w ∧ holds w) :
    ∃ es, mapOption name f entries = .ok es ∧
      (∀ k, k ≠ name → lookup? k es = lookup? k entries) ∧
        (Value.option name es = .null ∨ holds (Value.option name es)) := by
  unfold mapOption
  split
  · rename_i hlook
    exact ⟨entries, rfl, fun _ _ => rfl, Or.inl (by simp [Value.option, hlook])⟩
  · rename_i hlook
    exact ⟨entries, rfl, fun _ _ => rfl, Or.inl (by simp [Value.option, hlook])⟩
  · rename_i v hnull hlook
    obtain ⟨w, hw, hholds⟩ := h v hlook fun he => hnull he
    refine ⟨insertKey name w entries, by rw [hw]; rfl, fun k hk => ?_, Or.inr ?_⟩
    · rw [lookup?_insertKey, if_neg hk.symm]
    · rwa [Value.option, lookup?_insertKey, if_pos rfl]

lemma snakeEntries_of_options {v : Value} {entries : Entries} (h : v.options = .ok entries) :
    ∃ es, snakeEntries v = .ok es ∧
      ∀ k w, (k, w) ∈ es → ∃ name, (name, w) ∈ entries ∧ snakeCase name = k := by
  refine ⟨insertKeys [] (entries.map fun e => (snakeCase e.1, e.2)), ?_, fun k w hw => ?_⟩
  · rw [snakeEntries, h]
    rfl
  · rcases mem_insertKeys hw with hmem | hnil
    · obtain ⟨⟨name, v⟩, hv, he⟩ := List.mem_map.mp hmem
      cases he
      exact ⟨name, hv, rfl⟩
    · cases hnil

/-- The options that a value of an input type stands for; null stands for none. -/
lemma DeclaredType.Has.options {name : String} {declared : DeclaredFields} {v : Value}
    (h : (helper name).Has v) (hfields : (helper name).fields? = some declared)
    (hsymbols : (helper name).symbols = []) :
    ∃ entries, v.options = .ok entries ∧ v.entryList = .ok entries ∧
      ∀ k w, (k, w) ∈ entries → ∃ t, lookup? k declared = some t ∧ t.Has w := by
  rcases h.input hfields hsymbols with rfl | ⟨entries, rfl, hdeclared, _⟩
  · exact ⟨[], rfl, rfl, fun k w hw => nomatch hw⟩
  · exact ⟨entries, rfl, rfl, hdeclared⟩

open DeclaredType Meaning

/-- The type and the meaning of an argument that makes rules, and the kind of schemas that it does
so for. -/
structure Route where
  type : DeclaredType
  kind : Kind
  meaning : Meaning

/-- Whether neither reading a value nor making a rule of it ends with a fault. -/
def Route.Works (r : Route) (v : Value) : Prop :=
  (r.meaning.form.read v).Answers ∧
    ∀ args, r.meaning.form.read v = .ok args → r.kind.RuleAnswers r.meaning.operation args

/-- The flags that an object gives for a pattern. -/
def patternFlags (entries : Entries) : Defined PatternFlags := do
  (← lift (Value.option "flags" entries).optionalParts).foldlM addPatternFlag .none

/-- Whether an operation can do without a value. -/
def Meaning.takesNull (m : Meaning) : Bool :=
  !([.symbol, .spread, .keyAndPeers, .textLength, .pattern].contains m.form) &&
    m.operation != "normalize"

/-- What keeps a value of the declared type from leading to a fault: there is a value where one is
needed, the text of a date denotes a moment that can be computed if it denotes one, and a pattern
that cannot be read is malformed. -/
structure Workable (m : Meaning) (v : Value) : Prop where
  given : v = .null → m.takesNull = true
  moment : m.form = .asIs → m.kinds = some [.date] → ∀ f, v.toMoment none ≠ .error f
  pattern : m.form = .pattern → ∀ entries flags source e, v = .object entries →
    patternFlags entries = .ok flags → lookup? "pattern" entries = some (.str source) →
      Pattern.read source flags = .error e → e = .malformed

/-- Where neither dates nor patterns are read, a value is all that is needed. -/
lemma Workable.of_given {m : Meaning} {v : Value} (hv : v ≠ .null)
    (hkinds : m.kinds ≠ some [.date]) (hform : m.form ≠ .pattern) : Workable m v :=
  ⟨fun h => absurd h hv, fun _ h => absurd h hkinds, fun h => absurd h hform⟩

namespace Route

variable {r : Route} {v : Value}

lemma works_of_read {args : List Value} (hread : r.meaning.form.read v = .ok args)
    (h : r.kind.RuleAnswers r.meaning.operation args) : r.Works v := by
  refine ⟨hread ▸ .ok args, fun args' hargs => ?_⟩
  rwa [Except.ok.inj (hargs.symm.trans hread)]

/-- Operations without arguments. -/
def flags : List Route := [
  ⟨flag, .date, on .date "iso" .flag⟩, ⟨flag, .number, plain "integer" .flag⟩,
  ⟨flag, .number, plain "negative" .flag⟩, ⟨flag, .number, plain "port" .flag⟩,
  ⟨flag, .number, plain "positive" .flag⟩, ⟨flag, .string, plain "alphanum" .flag⟩,
  ⟨flag, .string, plain "credit_card" .flag⟩, ⟨boolean, .string, plain "hex" .flag⟩,
  ⟨flag, .string, plain "hostname" .flag⟩, ⟨flag, .string, plain "iso_date" .flag⟩,
  ⟨flag, .string, plain "iso_duration" .flag⟩, ⟨flag, .string, plain "lowercase" .flag⟩,
  ⟨flag, .string, plain "token" .flag⟩, ⟨flag, .string, plain "uppercase" .flag⟩]

lemma works_flag (h : r ∈ flags) : r.Works v := by
  have hform : ∀ r ∈ flags, r.meaning.form = .flag := by decide
  refine works_of_read (congrArg (ArgumentForm.read v) (hform r h)) ?_
  fin_cases h <;> exact FailsOnly.ok _

/-- Limits for sizes. -/
def sizes : List Route := [
  ⟨int, .array, on .array "length" .asIs⟩, ⟨int, .array, on .array "max" .asIs⟩,
  ⟨int, .array, on .array "min" .asIs⟩, ⟨int, .object, on .object "length" .asIs⟩,
  ⟨int, .object, on .object "max" .asIs⟩, ⟨int, .object, on .object "min" .asIs⟩]

lemma works_size (h : r ∈ sizes) : r.Works v := by
  have hform : ∀ r ∈ sizes, r.meaning.form = .asIs := by decide
  refine works_of_read (congrArg (ArgumentForm.read v) (hform r h)) ?_
  fin_cases h <;> exact (sizeLimit_answers _ v).bind fun _ _ => .pure _

/-- Limits for numbers. -/
def bounds : List Route := [
  ⟨float, .number, on .number "greater" .asIs⟩, ⟨float, .number, on .number "less" .asIs⟩,
  ⟨float, .number, on .number "max" .asIs⟩, ⟨float, .number, on .number "min" .asIs⟩]

lemma works_bound (h : r ∈ bounds) : r.Works v := by
  have hform : ∀ r ∈ bounds, r.meaning.form = .asIs := by decide
  refine works_of_read (congrArg (ArgumentForm.read v) (hform r h)) ?_
  fin_cases h <;> exact (numberArgument_answers _ v).bind fun _ _ => .pure _

/-- Limits for dates. -/
def dates : List Route := [
  ⟨string, .date, on .date "greater" .asIs⟩, ⟨string, .date, on .date "less" .asIs⟩,
  ⟨string, .date, on .date "max" .asIs⟩, ⟨string, .date, on .date "min" .asIs⟩]

lemma works_date (h : r ∈ dates) (hw : Workable r.meaning v) : r.Works v := by
  have hform : ∀ r ∈ dates, r.meaning.form = .asIs ∧ r.meaning.kinds = some [.date] := by decide
  have hlimit : ∀ rule, (DateLimit.ofValue rule v).Answers := by
    intro rule
    unfold DateLimit.ofValue
    split
    · exact .ok _
    · cases hv : v.toMoment none with
      | error f => exact absurd hv (hw.moment (hform r h).1 (hform r h).2 f)
      | ok m? =>
        cases m? with
        | none => exact Answers.refuse _
        | some m => exact .ok _
  refine works_of_read (congrArg (ArgumentForm.read v) (hform r h).1) ?_
  fin_cases h <;> exact (hlimit _).bind fun _ _ => .pure _

/-- Choices between symbols. -/
def symbols : List Route := [
  ⟨helper "Sign", .number, plain "sign" .symbol⟩,
  ⟨helper "CaseDirection", .string, plain "case" .symbol⟩,
  ⟨helper "TimestampType", .date, plain "timestamp" .symbol⟩]

lemma works_symbol (h : r ∈ symbols) (hv : r.type.Has v) (hw : Workable r.meaning v) :
    r.Works v := by
  have hform : ∀ r ∈ symbols, r.meaning.form = .symbol ∧ r.meaning.takesNull = false ∧
      r.type.fields? = none ∧ ∃ name, r.type = helper name := by
    intro r hr
    fin_cases hr <;> exact ⟨rfl, rfl, rfl, _, rfl⟩
  obtain ⟨hsymbol, hnull, hfields, name, hname⟩ := hform r h
  rw [hname] at hfields hv
  rcases hv.symbol hfields with rfl | ⟨s, _, rfl⟩
  · exact Bool.noConfusion (hnull.symm.trans (hw.given rfl))
  refine works_of_read (congrArg (ArgumentForm.read _) hsymbol) ?_
  fin_cases h
  · exact NumberRule.sign_answers _
  · exact (StringRule.letterCaseOf_answers _).map
  · exact timestamp_answers _

/-- Conditions on keys. -/
def peers : List Route := [
  ⟨list string, .object, plain "and_" .spread⟩, ⟨list string, .object, plain "nand" .spread⟩,
  ⟨list string, .object, plain "or_" .spread⟩, ⟨list string, .object, plain "oxor" .spread⟩,
  ⟨list string, .object, plain "xor" .spread⟩]

lemma ofSymbols_of_strings (h : (list string).Has v) : v.OfSymbols := by
  rcases h.list with rfl | ⟨items, rfl, hitems⟩ | hitem
  · exact Or.inl rfl
  · exact Or.inr (Or.inr ⟨items, rfl, fun w hw => (hitems w hw).string⟩)
  · exact hitem.string.imp_right Or.inl

lemma works_peers (h : r ∈ peers) (hv : r.type.Has v) (hw : Workable r.meaning v) :
    r.Works v := by
  have hform : ∀ r ∈ peers, r.meaning.form = .spread ∧ r.meaning.takesNull = false ∧
      r.type = list string := by decide
  obtain ⟨hspread, hnull, htype⟩ := hform r h
  rw [htype] at hv
  obtain ⟨ps, hps, _⟩ := Value.parts_ofSymbols
    (fun he => Bool.noConfusion (hnull.symm.trans (hw.given he))) (ofSymbols_of_strings hv)
  unfold Works
  rw [hspread]
  refine ⟨?_, fun args hargs => ?_⟩
  · rw [ArgumentForm.read, hps]
    exact .ok _
  · fin_cases h <;> exact (ObjectRule.peerNames_answers _ args).bind fun _ _ => .pure _

/-- Conditions on a key and others. -/
def dependencies : List Route := [
  ⟨helper "WithInput", .object, plain "with_" .keyAndPeers⟩,
  ⟨helper "WithoutInput", .object, plain "without" .keyAndPeers⟩]

lemma works_dependency (h : r ∈ dependencies) (hv : r.type.Has v)
    (hw : Workable r.meaning v) : r.Works v := by
  have hform : ∀ r ∈ dependencies, r.meaning.form = .keyAndPeers ∧
      r.meaning.takesNull = false ∧ r.type.fields? = some Declaration.keyAndPeers ∧
        r.type.symbols = [] ∧ ∃ name, r.type = helper name := by
    intro r hr
    fin_cases hr <;> exact ⟨rfl, rfl, rfl, rfl, _, rfl⟩
  obtain ⟨hkey, hnull, hfields, hsymbols, name, hname⟩ := hform r h
  rw [hname] at hfields hsymbols hv
  rcases hv.input hfields hsymbols with rfl | ⟨entries, rfl, hdeclared, hgiven⟩
  · exact Bool.noConfusion (hnull.symm.trans (hw.given rfl))
  obtain ⟨key, _, hmember⟩ := memberOf_object (hgiven "key" string (by decide))
  have hpeers : (Value.option "peers" entries).OfSymbols := by
    rcases Value.option_cases "peers" entries with hnone | hlook
    · exact Or.inl hnone
    · obtain ⟨t, ht, hhas⟩ := hdeclared _ _ (mem_of_lookup? hlook)
      cases ht
      exact ofSymbols_of_strings hhas.of_required
  obtain ⟨ps, hps, _⟩ := Value.optionalParts_ofSymbols hpeers
  have hread : ArgumentForm.keyAndPeers.read (.object entries) = .ok (key :: ps) := by
    simp only [ArgumentForm.read, hmember]
    change (do return key :: (← lift (Value.option "peers" entries).optionalParts)) = _
    rw [hps]
    rfl
  refine works_of_read ((congrArg (ArgumentForm.read _) hkey).trans hread) ?_
  fin_cases h <;> exact (ObjectRule.keyAndPeers_answers _ key ps).bind fun _ _ => .pure _

/-- Limits for the length of texts, perhaps in an encoding. -/
def lengths : List Route := [
  ⟨helper "StringLengthInput", .string, on .string "length" .textLength⟩,
  ⟨helper "StringLengthInput", .string, on .string "max" .textLength⟩,
  ⟨helper "StringLengthInput", .string, on .string "min" .textLength⟩]

lemma works_length (h : r ∈ lengths) (hv : r.type.Has v) (hw : Workable r.meaning v) :
    r.Works v := by
  have hform : ∀ r ∈ lengths, r.meaning.form = .textLength ∧ r.meaning.takesNull = false ∧
      r.type = helper "StringLengthInput" := by decide
  obtain ⟨hlength, hnull, htype⟩ := hform r h
  rw [htype] at hv
  rcases hv.input rfl rfl with rfl | ⟨entries, rfl, _, hgiven⟩
  · exact Bool.noConfusion (hnull.symm.trans (hw.given rfl))
  obtain ⟨limit, _, hmember⟩ := memberOf_object (hgiven "limit" int (by decide))
  have hread : ArgumentForm.textLength.read (.object entries) =
      .ok [limit, Value.option "encoding" entries] := by
    simp only [ArgumentForm.read, hmember]
    rfl
  refine works_of_read ((congrArg (ArgumentForm.read _) hlength).trans hread) ?_
  fin_cases h <;> exact (StringRule.sizeOf_answers _ limit _).map

/-- Options that are taken as they are given. -/
def options : List Route := [
  ⟨helper "Base64Input", .string, plain "base64" .options⟩,
  ⟨helper "DataUriInput", .string, plain "data_uri" .options⟩,
  ⟨helper "DomainInput", .string, plain "domain" .options⟩,
  ⟨helper "EmailInput", .string, plain "email" .options⟩]

lemma works_options (h : r ∈ options) (hv : r.type.Has v) : r.Works v := by
  have hform : ∀ r ∈ options, r.meaning.form = .options ∧ r.type.symbols = [] ∧
      ∃ name declared, r.type = helper name ∧ r.type.fields? = some declared := by
    intro r hr
    fin_cases hr <;> exact ⟨rfl, rfl, _, _, rfl, rfl⟩
  obtain ⟨hoptions, hsymbols, name, declared, hname, hfields⟩ := hform r h
  rw [hname] at hsymbols hfields hv
  obtain ⟨entries, hentries, _, _⟩ := hv.options hfields hsymbols
  obtain ⟨es, hes, _⟩ := snakeEntries_of_options hentries
  have hread : ArgumentForm.options.read v = .ok [.object es] := by
    rw [ArgumentForm.read, hes]
    rfl
  refine works_of_read ((congrArg (ArgumentForm.read v) hoptions).trans hread) ?_
  fin_cases h <;> exact FailsOnly.ok _

lemma exists_guidSeparator {s : String} (h : s ∈ (helper "GuidSeparator").symbols) :
    ∃ w, guidSeparatorOf (.str s) = .ok w ∧ ((∃ b, w = .bool b) ∨ ∃ t, w = .str t) := by
  change s ∈ ["NONE", "COLON", "DASH", "COLON_OR_DASH"] at h
  fin_cases h
  · exact ⟨_, rfl, Or.inl ⟨_, rfl⟩⟩
  · exact ⟨_, rfl, Or.inr ⟨_, rfl⟩⟩
  · exact ⟨_, rfl, Or.inr ⟨_, rfl⟩⟩
  · exact ⟨_, rfl, Or.inl ⟨_, rfl⟩⟩

lemma ofSymbols_of_list {name : String} (hfields : (helper name).fields? = none)
    (h : (list (helper name)).Has v) : v.OfSymbols := by
  have hitem : ∀ w, (helper name).Has w → w = .null ∨ ∃ s, w = .str s := fun w hw =>
    (hw.symbol hfields).imp_right fun ⟨s, _, hs⟩ => ⟨s, hs⟩
  rcases h.list with rfl | ⟨items, rfl, hitems⟩ | hsingle
  · exact Or.inl rfl
  · exact Or.inr (Or.inr ⟨items, rfl, fun w hw => hitem w (hitems w hw)⟩)
  · exact (hitem v hsingle).imp_right Or.inl

/-- Options of which one is a list of versions and the other a choice: the versions are made small,
and the choice is changed. -/
lemma exists_versions {input versions other choice : String} {f : Value → Defined Value}
    {holds : Value → Prop} (hv : (helper input).Has v)
    (hfields : (helper input).fields? =
      some [("version", list (helper versions)), (other, helper choice)])
    (hsymbols : (helper input).symbols = []) (hversions : (helper versions).fields? = none)
    (hother : snakeCase other = other) (hne : other ≠ "version")
    (hchoice : ∀ w, (helper choice).Has w → w ≠ .null → ∃ u, f w = .ok u ∧ holds u) :
    ∃ es lowered changed, snakeEntries v = .ok es ∧
      mapOption "version" (fun w => .ok (lowerSymbols w)) es = .ok lowered ∧
        mapOption other f lowered = .ok changed ∧ (Value.option "version" changed).OfSymbols ∧
          (Value.option other changed = .null ∨ holds (Value.option other changed)) := by
  obtain ⟨entries, hentries, _, hdeclared⟩ := hv.options hfields hsymbols
  obtain ⟨es, hes, hnames⟩ := snakeEntries_of_options hentries
  have hgiven : ∀ k w, lookup? k es = some w →
      k = "version" ∧ w.OfSymbols ∨ k = other ∧ (helper choice).Has w := by
    intro k w hw
    obtain ⟨name, hmem, rfl⟩ := hnames k w (mem_of_lookup? hw)
    obtain ⟨t, ht, hhas⟩ := hdeclared name w hmem
    rcases List.mem_cons.mp (mem_of_lookup? ht) with he | hmem
    · cases he
      exact Or.inl ⟨rfl, ofSymbols_of_list hversions hhas⟩
    · cases List.mem_singleton.mp hmem
      exact Or.inr ⟨hother, hhas⟩
  have hlower : ∀ w, lookup? "version" es = some w → w ≠ .null →
      ∃ u, (.ok (lowerSymbols w) : Defined Value) = .ok u ∧ u.OfSymbols := by
    intro w hw _
    rcases hgiven _ w hw with ⟨_, hofSymbols⟩ | ⟨hk, _⟩
    · exact ⟨_, rfl, Value.ofSymbols_lower hofSymbols⟩
    · exact absurd hk.symm hne
  obtain ⟨lowered, hlowered, hkept, hversion⟩ := exists_mapOption hlower
  have hchange : ∀ w, lookup? other lowered = some w → w ≠ .null → ∃ u, f w = .ok u ∧ holds u := by
    intro w hw hnull
    rw [hkept other hne] at hw
    rcases hgiven _ w hw with ⟨hk, _⟩ | ⟨_, hhas⟩
    · exact absurd hk hne
    · exact hchoice w hhas hnull
  obtain ⟨changed, hchanged, hothers, hholds⟩ := exists_mapOption hchange
  have hoption : Value.option "version" changed = Value.option "version" lowered := by
    unfold Value.option
    rw [hothers "version" hne.symm]
  exact ⟨es, lowered, changed, hes, hlowered, hchanged, hoption ▸ hversion.elim Or.inl id, hholds⟩

lemma guidOf_answers {es : Entries} (hversion : (Value.option "version" es).OfSymbols)
    (hseparator : Value.option "separator" es = .null ∨
      (∃ b, Value.option "separator" es = .bool b) ∨
        ∃ t, Value.option "separator" es = .str t) :
    (StringRule.guidOf [.object es]).Answers := by
  obtain ⟨ps, hps, hall⟩ := Value.optionalParts_ofSymbols hversion
  refine .bind (.ok es) fun options hoptions => ?_
  cases hoptions
  rw [hps]
  refine .bind (.ok ps) fun versions hversions => ?_
  cases hversions
  refine .bind (.mapM fun p hp => StringRule.guidVersion_answers ?_) fun _ _ =>
    .bind (StringRule.guidSeparator_answers hseparator) fun _ _ => .pure _
  rcases hall p hp with rfl | ⟨s, rfl⟩ <;> rfl

lemma ipOf_answers {es : Entries} (hversion : (Value.option "version" es).OfSymbols) :
    (StringRule.ipOf [.object es]).Answers := by
  obtain ⟨ps, hps, _⟩ := Value.optionalParts_ofSymbols hversion
  refine .bind (.ok es) fun options hoptions => ?_
  cases hoptions
  refine .bind (StringRule.cidrOf_answers _) fun cidr _ => ?_
  rw [hps]
  refine .bind (.ok ps) fun versions _ => ?_
  exact .bind (.mapM fun p _ => StringRule.addressVersion_answers p) fun _ _ => .pure _

def guid : Route := ⟨helper "GuidInput", .string, plain "guid" .guidOptions⟩

lemma works_guid (hv : guid.type.Has v) : guid.Works v := by
  have hseparator : ∀ w, (helper "GuidSeparator").Has w → w ≠ .null →
      ∃ u, guidSeparatorOf w = .ok u ∧ ((∃ b, u = .bool b) ∨ ∃ t, u = .str t) := by
    intro w hw hnull
    obtain ⟨s, hs, rfl⟩ := (hw.symbol rfl).resolve_left hnull
    exact exists_guidSeparator hs
  obtain ⟨es, lowered, changed, hes, hlowered, hchanged, hversion, hholds⟩ :=
    exists_versions hv rfl rfl rfl (by decide) (by decide) hseparator
  have hread : ArgumentForm.guidOptions.read v = .ok [.object changed] := by
    rw [ArgumentForm.read, hes]
    refine bind_eq_ok.mpr ⟨es, rfl, bind_eq_ok.mpr ⟨lowered, hlowered, ?_⟩⟩
    exact bind_eq_ok.mpr ⟨changed, hchanged, rfl⟩
  exact works_of_read hread (guidOf_answers hversion hholds).map

def ip : Route := ⟨helper "IpInput", .string, plain "ip" .addressOptions⟩

lemma works_ip (hv : ip.type.Has v) : ip.Works v := by
  have hcidr : ∀ w, (helper "IpCidr").Has w → w ≠ .null →
      ∃ u, (.ok (lowerSymbols w) : Defined Value) = .ok u ∧ True :=
    fun w _ _ => ⟨_, rfl, trivial⟩
  obtain ⟨es, lowered, changed, hes, hlowered, hchanged, hversion, _⟩ :=
    exists_versions hv rfl rfl rfl (by decide) (by decide) hcidr
  have hread : ArgumentForm.addressOptions.read v = .ok [.object changed] := by
    rw [ArgumentForm.read, hes]
    refine bind_eq_ok.mpr ⟨es, rfl, bind_eq_ok.mpr ⟨lowered, hlowered, ?_⟩⟩
    exact bind_eq_ok.mpr ⟨changed, hchanged, rfl⟩
  exact works_of_read hread (ipOf_answers hversion).map

lemma patternFlags_answers {entries : Entries}
    (h : ∀ w, lookup? "flags" entries = some w → string.Has w) : (patternFlags entries).Answers := by
  have hflags : (Value.option "flags" entries).OfSymbols := by
    rcases Value.option_cases "flags" entries with hnone | hlook
    · exact Or.inl hnone
    · exact (h _ hlook).string.imp_right Or.inl
  obtain ⟨letters, hletters, hall⟩ := Value.optionalParts_ofSymbols hflags
  unfold patternFlags
  rw [hletters]
  refine .bind (.ok letters) fun letters' hl => ?_
  cases hl
  refine .foldlM (fun flags letter hletter => ?_) _
  have hkey : letter.canBeKey = true := by
    rcases hall letter hletter with rfl | ⟨s, rfl⟩ <;> rfl
  unfold addPatternFlag
  split
  any_goals exact .ok _
  rw [if_pos hkey]
  exact Answers.refuse _

lemma patternArguments_object {entries : Entries} {w : Value}
    (h : memberOf "pattern" (.object entries) = .ok w) :
    patternArguments (.object entries) = do
      let flags ← patternFlags entries
      let p ← patternWith flags w
      return [.pattern p,
        .object [("name", Value.option "name" entries),
          ("invert", .bool (Value.option "invert" entries).truthy)]] := by
  unfold patternArguments patternFlags
  simp only [bind_assoc, h]
  rfl

def pattern : Route := ⟨helper "PatternInput", .string, plain "pattern" .pattern⟩

lemma works_pattern (hv : pattern.type.Has v) (hw : Workable pattern.meaning v) :
    pattern.Works v := by
  rcases hv.input rfl rfl with rfl | ⟨entries, rfl, hdeclared, hgiven⟩
  · exact Bool.noConfusion (hw.given rfl)
  obtain ⟨w, hlook, hmember⟩ := memberOf_object (hgiven "pattern" string (by decide))
  obtain ⟨t, ht, hhas⟩ := hdeclared _ _ (mem_of_lookup? hlook)
  cases ht
  obtain ⟨source, rfl⟩ := hhas.of_required.string.resolve_left hhas.ne_null
  have hflags : (patternFlags entries).Answers := by
    refine patternFlags_answers fun w hw => ?_
    obtain ⟨t, ht, hhas⟩ := hdeclared _ _ (mem_of_lookup? hw)
    cases ht
    exact hhas
  unfold Works
  simp only [pattern, plain, ArgumentForm.read, patternArguments_object hmember]
  refine ⟨hflags.bind fun flags hok => ?_, fun args hargs => ?_⟩
  · refine FailsOnly.bind ?_ fun p _ => .pure _
    have hread := hw.pattern rfl entries flags source
    change (Defined.pattern source flags).Answers
    unfold Defined.pattern
    cases hp : Pattern.read source flags with
    | ok p => exact .ok p
    | error e =>
      obtain rfl := hread e rfl hok hlook hp
      exact .error rfl
  · obtain ⟨flags, _, hrest⟩ := bind_eq_ok.mp hargs
    obtain ⟨p, _, hpure⟩ := bind_eq_ok.mp hrest
    cases pure_eq_ok.mp hpure
    exact FailsOnly.ok _

/-- Values that make a rule by themselves. -/
def values : List Route := [
  ⟨float, .number, plain "multiple" .asIs⟩, ⟨int, .number, plain "precision" .asIs⟩,
  ⟨boolean, .string, plain "trim" .asIs⟩]

lemma works_value (h : r ∈ values) : r.Works v := by
  have hform : ∀ r ∈ values, r.meaning.form = .asIs := by decide
  refine works_of_read (congrArg (ArgumentForm.read v) (hform r h)) ?_
  fin_cases h
  · exact NumberRule.multiple_answers v
  · exact NumberRule.precision_answers v
  · exact FailsOnly.ok _

/-- Changes of form. -/
def normalForm : Route := ⟨helper "NormalizeForm", .string, plain "normalize" .asIs⟩

lemma works_normalForm (hv : normalForm.type.Has v) (hw : Workable normalForm.meaning v) :
    normalForm.Works v := by
  rcases hv.symbol rfl with rfl | ⟨s, _, rfl⟩
  · exact Bool.noConfusion (hw.given rfl)
  exact works_of_read rfl (StringRule.normalizeOf_answers s).map

def order : Route := ⟨helper "SortInput", .array, on .array "sort" .sort⟩

lemma works_order (hv : order.type.Has v) : order.Works v := by
  obtain ⟨entries, _, hentries, hdeclared⟩ := hv.options rfl rfl
  have horder : ∀ w, lookup? "order" entries = some w → w ≠ .null →
      ∃ u, symbolArgument w = .ok u ∧ True := by
    intro w hw hnull
    obtain ⟨t, ht, hhas⟩ := hdeclared _ _ (mem_of_lookup? hw)
    cases ht
    obtain ⟨s, _, rfl⟩ := (hhas.symbol rfl).resolve_left hnull
    exact ⟨_, rfl, trivial⟩
  obtain ⟨es, hes, _⟩ := exists_mapOption horder
  have hread : ArgumentForm.sort.read v = .ok [.object es] := by
    rw [ArgumentForm.read, hentries]
    exact bind_eq_ok.mpr ⟨entries, rfl, bind_eq_ok.mpr ⟨es, hes, rfl⟩⟩
  exact works_of_read hread <| (ArrayRule.sortOrderOf_answers _).bind fun _ _ => .pure _

def distinct : Route := ⟨helper "UniqueInput", .array, on .array "unique" .unique⟩

lemma works_distinct (hv : distinct.type.Has v) : distinct.Works v := by
  obtain ⟨entries, hentries, _, _⟩ := hv.options rfl rfl
  have hread : ArgumentForm.unique.read v = .ok [Value.option "comparator" entries] := by
    rw [ArgumentForm.read, hentries]
    rfl
  exact works_of_read hread <| FailsOnly.ok _

/-- All the arguments that make rules. -/
def all : List Route :=
  flags ++ sizes ++ bounds ++ dates ++ symbols ++ peers ++ dependencies ++ lengths ++ options ++
    values ++ [guid, ip, pattern, normalForm, order, distinct]

lemma isOf_kind : ∀ r ∈ all, r.meaning.isOf r.kind = true := by decide

lemma works (h : r ∈ all) (hv : r.type.Has v) (hw : Workable r.meaning v) : r.Works v := by
  simp only [all, List.mem_append, List.mem_cons, List.not_mem_nil, or_false] at h
  obtain ((((((((((h | h) | h) | h) | h) | h) | h) | h) | h) | h) |
    rfl | rfl | rfl | rfl | rfl | rfl) := h
  · exact works_flag h
  · exact works_size h
  · exact works_bound h
  · exact works_date h hw
  · exact works_symbol h hv hw
  · exact works_peers h hv hw
  · exact works_dependency h hv hw
  · exact works_length h hv hw
  · exact works_options h hv
  · exact works_value h
  · exact works_guid hv
  · exact works_ip hv
  · exact works_pattern hv hw
  · exact works_normalForm hv hw
  · exact works_order hv
  · exact works_distinct hv

end Route

end InputGuard

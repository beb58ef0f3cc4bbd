import InputGuard.Proofs.CompilationErrors
import InputGuard.Proofs.TextFaults

/-!
# Texts under declared arguments

Where the arguments of directives fit their declared types, the options of rules for texts have the
right types: encodings are texts, labels are compared with numbers, and addresses are separated by
texts. Every argument keeps this, so all of them together do. What is left of the faults is due to the
texts, to encodings that cannot be used and to the values in the texts.
-/

namespace InputGuard

open DeclaredType

/-- The labels of domain names are compared with numbers. -/
def Format.DomainOptions.Typed (o : Format.DomainOptions) : Prop :=
  o.least ≠ .incomparable ∧ o.most ≠ some .incomparable

lemma Format.DomainOptions.Typed.not_faults {o : Format.DomainOptions} {s : List Char}
    (h : o.Typed) : ¬o.Faults s := by
  rintro ⟨-, -, hleast | ⟨-, hmost⟩⟩
  · exact h.1 hleast
  · exact h.2 hmost

namespace StringRule

/-- The options of a rule have the types that the rule works with, and those that its issue names
can be written. -/
def Typed : StringRule → Prop
  | size _ limit encoding =>
    limit.value.hasText = true ∧ (encoding = .null ∨ ∃ name, encoding = .str name)
  | pattern _ name _ => name.hasText = true
  | domain o => o.Typed
  | email o => o.domain.Typed ∧ o.separator ≠ none
  | _ => True

lemma Typed.hasText {rule : StringRule} (h : rule.Typed) : rule.hasText = true := by
  cases rule with
  | size test limit encoding =>
    obtain ⟨hlimit, hencoding⟩ := h
    refine Bool.and_eq_true_iff.mpr ⟨hlimit, ?_⟩
    rcases hencoding with rfl | ⟨name, rfl⟩ <;> rfl
  | pattern p name invert => exact h
  | _ => rfl

/-- What the options of the right types leave of the faults. -/
lemma Faults.of_typed {codecs : Codecs} {rule : StringRule} {s : String} {f : Fault}
    (h : rule.Faults codecs s f) (htyped : rule.Typed) :
    f ∈ [Fault.badValue, .unknownEncoding, .unencodable] := by
  cases h with
  | size htruthy h =>
    cases h with
    | notText hother =>
      rcases htyped.2 with rfl | ⟨name, rfl⟩
      · cases htruthy
      · exact absurd rfl (hother name)
    | zero | unknown | unencodable => decide
  | creditCard | ip => decide
  | domain h => exact absurd h htyped.not_faults
  | email h =>
    obtain ⟨hdomain, hseparator⟩ := htyped
    rcases h with ⟨-, hnone⟩ | ⟨_, -, _, -, -, _, _, -, -, -, -, hfaults⟩
    · exact absurd hnone hseparator
    · exact absurd hfaults hdomain.not_faults

end StringRule

/-- What a computation gives, if anything, satisfies a condition. -/
def Yields {ε α : Type} (holds : α → Prop) (x : Except ε α) : Prop := ∀ a, x = .ok a → holds a

namespace Yields

variable {ε α β : Type} {holds : β → Prop}

lemma ok {b : β} (h : holds b) : Yields holds (.ok b : Except ε β) := by
  intro b' hb
  cases hb
  exact h

lemma error (e : ε) : Yields holds (.error e : Except ε β) := by
  intro b h
  cases h

lemma bind {x : Except ε α} {k : α → Except ε β} (h : ∀ a, x = .ok a → Yields holds (k a)) :
    Yields holds (x >>= k) := by
  intro b hb
  obtain ⟨a, ha, hk⟩ := bind_eq_ok.mp hb
  exact h a ha b hk

end Yields

namespace StringRule

variable {operation : String} {args : List Value}

/-- The rule that an operation adds, if it adds one, is of the right types. -/
abbrev YieldsTyped (x : Defined (Option StringRule)) : Prop :=
  Yields (fun rule : Option StringRule => ∀ r ∈ rule, r.Typed) x

lemma yieldsTyped_pure {rule : StringRule} (h : rule.Typed) : YieldsTyped (pure (some rule)) := by
  refine .ok fun r hr => ?_
  obtain rfl := Option.some.inj hr
  exact h

lemma yieldsTyped_nothing {rule : StringRule} (h : rule.Typed) :
    YieldsTyped (Defined.nothing (some rule) args) := by
  cases args with
  | nil => exact yieldsTyped_pure h
  | cons v rest => exact .error _

lemma yieldsTyped_map {x : Defined StringRule} (h : Yields Typed x) : YieldsTyped (some <$> x) := by
  intro rule hrule
  obtain ⟨r, hr, rfl⟩ := map_eq_ok.mp hrule
  exact yieldsTyped_pure (h r hr) _ rfl

/-- The declared types, the forms and the operations of the arguments whose rules have options that
may be of wrong types. -/
def optionalRoutes : List (DeclaredType × ArgumentForm × String) := [
  (helper "StringLengthInput", .textLength, "length"),
  (helper "StringLengthInput", .textLength, "max"),
  (helper "StringLengthInput", .textLength, "min"),
  (helper "PatternInput", .pattern, "pattern"),
  (helper "DomainInput", .options, "domain"),
  (helper "EmailInput", .options, "email")]

def optional : List String := optionalRoutes.map (·.2.2)

lemma letterCaseOf_typed (v : Value) : Yields Typed (letterCaseOf v) := by
  unfold letterCaseOf
  split
  · exact .ok trivial
  · exact .ok trivial
  · exact .error _

lemma normalizeOf_typed (v : Value) : Yields Typed (normalizeOf v) := by
  unfold normalizeOf
  split
  · split
    · exact .ok trivial
    · exact .error _
  · exact .error _

lemma ofOperation_typed (h : operation ∉ optional) : YieldsTyped (ofOperation operation args) := by
  unfold ofOperation
  split
  -- operations in the order of the definition; those with options of other types come last
  case h_1 | h_2 | h_4 | h_5 | h_7 | h_8 | h_17 | h_20 => exact yieldsTyped_nothing trivial
  case h_3 | h_16 => exact .bind fun _ _ => yieldsTyped_pure trivial
  case h_6 => exact .bind fun v _ => yieldsTyped_map (letterCaseOf_typed v)
  case h_9 =>
    refine .bind fun enabled _ => ?_
    split
    · exact yieldsTyped_pure trivial
    · exact .ok (by simp)
  case h_10 => exact .bind fun v _ => yieldsTyped_map (normalizeOf_typed v)
  case h_15 => exact yieldsTyped_map (.bind fun _ _ => .ok trivial)
  case h_21 =>
    exact yieldsTyped_map
      (.bind fun _ _ => .bind fun _ _ => .bind fun _ _ => .bind fun _ _ => .ok trivial)
  case h_22 =>
    exact yieldsTyped_map
      (.bind fun _ _ => .bind fun _ _ => .bind fun _ _ => .bind fun _ _ => .ok trivial)
  case h_23 => exact .error _
  all_goals exact absurd (by decide) h

lemma lengthLimit_hasText {test : SizeTest} {v : Value} (hv : v.hasText = true) :
    Yields (fun limit => limit.value.hasText = true) (lengthLimit test v) := by
  intro limit hlimit
  unfold lengthLimit at hlimit
  split at hlimit
  · cases hlimit
    rfl
  · obtain ⟨n, hn, rfl⟩ := map_eq_ok.mp hlimit
    unfold Defined.sizeLimit at hn
    split at hn
    · rename_i m _
      split at hn
      · rename_i hm
        obtain rfl := Except.ok.inj hn
        change (Value.int m.toNat).hasText = true
        rwa [Int.toNat_of_nonneg hm]
      · cases hn
    · cases hn

lemma sizeOf_typed {test : SizeTest} {limit encoding : Value} (hlimit : limit.hasText = true)
    (hencoding : encoding = .null ∨ ∃ name, encoding = .str name) :
    Yields Typed (sizeOf test [limit, encoding]) := by
  refine .bind fun given hgiven => ?_
  cases hgiven
  exact .bind fun bound hbound => .ok ⟨lengthLimit_hasText hlimit bound hbound, hencoding⟩

lemma domainOptions_typed {options : Entries}
    (hleast : Value.option "min_domain_segments" options = .null ∨
      ∃ n, Value.option "min_domain_segments" options = .int n)
    (hmost : Value.option "max_domain_segments" options = .null ∨
      ∃ n, Value.option "max_domain_segments" options = .int n) :
    (domainOptions options).Typed := by
  unfold domainOptions Format.DomainOptions.Typed
  dsimp only
  constructor
  · rcases hleast with hnull | ⟨n, hn⟩
    · rw [hnull]
      exact nofun
    · rw [hn]
      split <;> nofun
  · rcases hmost with hnull | ⟨n, hn⟩
    · rw [hnull]
      exact nofun
    · rw [hn]
      exact nofun

lemma addressSeparator_ne_none {v : Value} (h : v = .null ∨ ∃ s, v = .str s) :
    addressSeparator v ≠ none := by
  unfold addressSeparator
  rcases h with rfl | ⟨s, rfl⟩
  · nofun
  · split <;> nofun

end StringRule

lemma DeclaredType.Has.int {v : Value} (h : (scalar "Int").Has v) :
    v = .null ∨ ∃ n, v = .int n ∧ (Number.int n).hasText = true := by
  obtain ⟨literal, hfits, hvalue⟩ := h
  cases literal with
  | null => exact Or.inl (Except.ok.inj hvalue).symm
  | int text =>
    simp only [Literal.value] at hvalue
    split at hvalue
    · rename_i n hn
      exact Or.inr ⟨n, (Except.ok.inj hvalue).symm, hasText_readInteger? hn⟩
    · cases hvalue
  | _ => simp [symbols, fields?] at hfits

/-- An option under its name in snake case, if all fields of that name have one type. -/
lemma DeclaredType.Has.snakeOption {input key : String} {declared : DeclaredFields}
    {type : DeclaredType} {v : Value} {es : Entries} (hv : (helper input).Has v)
    (hfields : (helper input).fields? = some declared) (hsymbols : (helper input).symbols = [])
    (hes : snakeEntries v = .ok es)
    (hkey : ∀ d ∈ declared, snakeCase d.1 = key → d.2 = type) :
    Value.option key es = .null ∨ type.Has (Value.option key es) := by
  obtain ⟨entries, hentries, -, hdeclared⟩ := hv.options hfields hsymbols
  obtain ⟨es', hes', hnames⟩ := snakeEntries_of_options hentries
  obtain rfl := Except.ok.inj (hes'.symm.trans hes)
  rcases Value.option_cases key es' with hnone | hlook
  · exact Or.inl hnone
  · obtain ⟨name, hmem, hname⟩ := hnames _ _ (mem_of_lookup? hlook)
    obtain ⟨t, ht, hhas⟩ := hdeclared name _ hmem
    exact Or.inr (hkey _ (mem_of_lookup? ht) hname ▸ hhas)

namespace StringRule

variable {v : Value} {args : List Value}

lemma length_typed (hv : (helper "StringLengthInput").Has v)
    (hread : ArgumentForm.textLength.read v = .ok args) (test : SizeTest) :
    Yields Typed (sizeOf test args) := by
  obtain ⟨limit, hlimit, hread⟩ := bind_eq_ok.mp hread
  obtain ⟨encoding, hencoding, hargs⟩ := bind_eq_ok.mp hread
  cases hargs
  rcases hv.input rfl rfl with rfl | ⟨entries, rfl, hdeclared, -⟩
  · cases hlimit
  cases hencoding
  have hlimit' : limit.hasText = true := by
    unfold memberOf at hlimit
    dsimp only at hlimit
    split at hlimit
    · rename_i w hlook
      obtain rfl := Except.ok.inj hlimit
      obtain ⟨t, ht, hhas⟩ := hdeclared _ _ (mem_of_lookup? hlook)
      cases ht
      rcases hhas.of_required.int with rfl | ⟨n, rfl, hn⟩
      · rfl
      · exact hn
    · cases hlimit
  refine sizeOf_typed hlimit' ?_
  rcases Value.option_cases "encoding" entries with hnone | hlook
  · exact Or.inl hnone
  · obtain ⟨t, ht, hhas⟩ := hdeclared _ _ (mem_of_lookup? hlook)
    cases ht
    exact hhas.string

lemma pattern_typed (hv : (helper "PatternInput").Has v)
    (hread : ArgumentForm.pattern.read v = .ok args) : Yields Typed (patternRuleOf args) := by
  rcases hv.input rfl rfl with rfl | ⟨entries, rfl, hdeclared, -⟩
  · cases hread
  have hname : (Value.option "name" entries).hasText = true := by
    rcases Value.option_cases "name" entries with hnone | hlook
    · rw [hnone]
      rfl
    · obtain ⟨t, ht, hhas⟩ := hdeclared _ _ (mem_of_lookup? hlook)
      cases ht
      rcases hhas.string with hnull | ⟨name, hname⟩
      · rw [hnull]
        rfl
      · rw [hname]
        rfl
  obtain ⟨given, hgiven, hread⟩ := bind_eq_ok.mp hread
  cases hgiven
  obtain ⟨letters, -, hread⟩ := bind_eq_ok.mp hread
  obtain ⟨flags, -, hread⟩ := bind_eq_ok.mp hread
  obtain ⟨source, -, hread⟩ := bind_eq_ok.mp hread
  obtain ⟨p, -, hargs⟩ := bind_eq_ok.mp hread
  obtain rfl := pure_eq_ok.mp hargs
  exact .ok hname

/-- Options that are read from a value of an input type. -/
lemma exists_snakeEntries (hread : ArgumentForm.options.read v = .ok args) :
    ∃ es, snakeEntries v = .ok es ∧ args = [.object es] := by
  obtain ⟨es, hes, hargs⟩ := bind_eq_ok.mp hread
  exact ⟨es, hes, (Except.ok.inj hargs).symm⟩

lemma labels_typed {input : String} {declared : DeclaredFields} {es : Entries}
    (hv : (helper input).Has v) (hfields : (helper input).fields? = some declared)
    (hsymbols : (helper input).symbols = []) (hes : snakeEntries v = .ok es)
    (hlabels : ∀ d ∈ declared, snakeCase d.1 = "min_domain_segments" ∨
      snakeCase d.1 = "max_domain_segments" → d.2 = int) : (domainOptions es).Typed := by
  have hint : ∀ {w : Value}, w = .null ∨ (scalar "Int").Has w → w = .null ∨ ∃ n, w = .int n := by
    rintro w (hnull | hhas)
    · exact Or.inl hnull
    · exact hhas.int.imp_right fun ⟨n, hn, _⟩ => ⟨n, hn⟩
  refine domainOptions_typed (hint ?_) (hint ?_)
  · exact hv.snakeOption hfields hsymbols hes fun d hd hname => hlabels d hd (Or.inl hname)
  · exact hv.snakeOption hfields hsymbols hes fun d hd hname => hlabels d hd (Or.inr hname)

lemma domain_typed (hv : (helper "DomainInput").Has v)
    (hread : ArgumentForm.options.read v = .ok args) : YieldsTyped (ofOperation "domain" args) := by
  obtain ⟨es, hes, rfl⟩ := exists_snakeEntries hread
  exact yieldsTyped_pure (labels_typed hv rfl rfl hes (by decide))

lemma email_typed (hv : (helper "EmailInput").Has v)
    (hread : ArgumentForm.options.read v = .ok args) : YieldsTyped (ofOperation "email" args) := by
  obtain ⟨es, hes, rfl⟩ := exists_snakeEntries hread
  have hseparator : Value.option "separator" es = .null ∨
      (scalar "String").Has (Value.option "separator" es) :=
    hv.snakeOption rfl rfl hes (by decide)
  refine yieldsTyped_pure ⟨labels_typed hv rfl rfl hes (by decide), ?_⟩
  exact addressSeparator_ne_none (hseparator.elim Or.inl DeclaredType.Has.string)

lemma mem_optionalRoutes : ∀ d ∈ Declaration.arguments,
    (Meaning.ofArgument d.1).operation ∈ optional →
      (Meaning.ofArgument d.1).kinds.all (·.contains Kind.string) = true →
        (d.2, (Meaning.ofArgument d.1).form, (Meaning.ofArgument d.1).operation) ∈
          optionalRoutes := by
  decide

lemma optionalRoutes_typed {type : DeclaredType} {form : ArgumentForm} {operation : String}
    (hroute : (type, form, operation) ∈ optionalRoutes) (hv : type.Has v)
    (hread : form.read v = .ok args) : YieldsTyped (ofOperation operation args) := by
  fin_cases hroute
  · exact yieldsTyped_map (length_typed hv hread _)
  · exact yieldsTyped_map (length_typed hv hread _)
  · exact yieldsTyped_map (length_typed hv hread _)
  · exact yieldsTyped_map (pattern_typed hv hread)
  · exact domain_typed hv hread
  · exact email_typed hv hread

/-- The rule that a declared argument adds to a schema for texts is of the right types. -/
lemma declared_typed {d : String × DeclaredType} (hd : d ∈ Declaration.arguments) (hv : d.2.Has v)
    (hread : (Meaning.ofArgument d.1).form.read v = .ok args)
    (hkinds : (Meaning.ofArgument d.1).kinds.all (·.contains Kind.string) = true) :
    YieldsTyped (ofOperation (Meaning.ofArgument d.1).operation args) := by
  by_cases hoptional : (Meaning.ofArgument d.1).operation ∈ optional
  · exact optionalRoutes_typed (mem_optionalRoutes d hd hoptional hkinds) hv hread
  · exact ofOperation_typed hoptional

end StringRule

/-- The kinds that a meaning is for have the kind of a schema that it applies to. -/
lemma Meaning.kinds_of_applies {m : Meaning} {schema : Schema} (h : m.applies schema = true) :
    m.kinds.all (·.contains schema.kind) = true := by
  obtain ⟨-, hkinds⟩ := Bool.and_eq_true_iff.mp h
  cases hm : m.kinds with
  | none => rfl
  | some kinds => rwa [hm] at hkinds

namespace Schema

variable {schema t : Schema} {field : String}

/-- The rules of a schema for texts are of the right types. -/
def Typed (schema : Schema) : Prop :=
  ∀ settings rules, schema = .string settings rules → ∀ rule ∈ rules, rule.Typed

/-- An operation on a schema for texts keeps the rules or adds one. -/
lemma refine_string_cases {settings : Settings} {rules : List StringRule} {operation : String}
    {args : List Value} (h : schema.refine operation args = .ok (some (.string settings rules))) :
    ∃ s rs, schema = .string s rs ∧ (rules = rs ∨ ∃ rule,
      StringRule.ofOperation operation args = .ok (some rule) ∧ rules = rs ++ [rule]) := by
  have hrefines := refines_of_refine h
  cases schema with
  | string s rs =>
    refine ⟨s, rs, rfl, ?_⟩
    unfold refine at h
    split at h
    · obtain ⟨_, _, h⟩ := bind_eq_ok.mp h
      obtain ⟨_, _, h⟩ := bind_eq_ok.mp h
      cases pure_eq_ok.mp h
      exact Or.inl rfl
    · cases h
      exact Or.inl rfl
    · obtain ⟨added, hadded, h⟩ := bind_eq_ok.mp h
      obtain ⟨rule, rfl, heq⟩ := Option.map_eq_some_iff.mp (pure_eq_ok.mp h)
      cases heq
      exact Or.inr ⟨rule, hadded, rfl⟩
  | any | number | date | boolean | array | arrayOf | object =>
    cases hrefines.kind_eq

/-- A cast does not give a schema for texts. -/
lemma castSchema_ne_string {v : Value} {settings : Settings} {rules : List StringRule} :
    castSchema v ≠ .ok (.string settings rules) := by
  intro h
  cases kind_castSchema h

/-- A declared argument keeps the types of the options. -/
lemma applyArgument_typed {a : String × Literal} (ha : isDeclared a = true)
    (h : schema.applyArgument field a = .ok t) (hschema : schema.Typed) : t.Typed := by
  rintro settings rules rfl
  obtain ⟨name, literal⟩ := a
  obtain ⟨type, hlook, hfits⟩ : ∃ type, lookup? name Declaration.arguments = some type ∧
      literal.fits type = true := by
    unfold isDeclared at ha
    dsimp only at ha
    split at ha
    · exact ⟨_, ‹_›, ha⟩
    · cases ha
  obtain ⟨v, hvalue, h⟩ := bind_eq_ok.mp h
  have hv : type.Has v := by
    refine ⟨literal, hfits, ?_⟩
    unfold literalValue at hvalue
    split at hvalue
    · exact congrArg Except.ok (Except.ok.inj hvalue) ▸ ‹_›
    · cases hvalue
  split at h
  · exact absurd h castSchema_ne_string
  · obtain ⟨args, hargs, h⟩ := bind_eq_ok.mp h
    split at h
    · rename_i happlies
      obtain ⟨refined, hrefined, hpure⟩ := bind_eq_ok.mp h
      have heq := pure_eq_ok.mp hpure
      cases refined with
      | none => exact hschema settings rules heq
      | some t =>
        obtain rfl : t = .string settings rules := heq
        obtain ⟨s, rs, rfl, rfl | ⟨rule, hrule, rfl⟩⟩ :=
          refine_string_cases (argumentResult_eq_ok hrefined)
        · exact hschema s rules rfl
        · have hkinds := Meaning.kinds_of_applies happlies
          have htyped := StringRule.declared_typed (mem_of_lookup? hlook) hv
            (argumentResult_eq_ok hargs) hkinds _ hrule rule rfl
          intro other hother
          rcases List.mem_append.mp hother with hold | hnew
          · exact hschema s rs rfl other hold
          · rwa [List.mem_singleton.mp hnew]
    · cases h

/-- Declared arguments together keep the types of the options. -/
lemma applyArguments_typed {arguments : Arguments}
    (harguments : ∀ a ∈ arguments, isDeclared a = true)
    (h : schema.applyArguments arguments field = .ok t) (hschema : schema.Typed) : t.Typed :=
  applyArguments_keeps Typed (fun _ a ha _ hs hs' => applyArgument_typed (harguments a ha) hs' hs)
    hschema h

/-- Whatever encodings are known, the check of a text ends with a fault in the cases of its rules
only. What passes is a text, and what does not is an issue, all of which can be written if that holds
of the place and of what the schema asks for. Declared arguments ask only for what can be written, and
leave three kinds of faults: texts that cannot be read where a format is told, unknown encodings, and
texts that cannot be written in an encoding. The version of a GUID is always there. -/
theorem string_total (store : Store) (visit : Visit) (settings : Settings)
    (rules : List StringRule) (s : String) :
    (∀ f, (string settings rules).validate store visit (.str s) = .error (.fault f) ↔
      TextFaults visit settings rules s f) ∧
    (∀ w, (string settings rules).validate store visit (.str s) = .ok w → ∃ t, w = .str t) ∧
    ((∀ step ∈ visit.path, step.value.hasText = true) →
      (∀ values ∈ settings.allowed, (Value.list values).hasText = true) →
      (∀ rule ∈ rules, rule.hasText = true) →
      ∀ detail, (string settings rules).validate store visit (.str s) = .error (.issue detail) →
        detail.hasText = true) ∧
    (∀ (start : Settings) (arguments : Arguments) (field : String),
      (∀ a ∈ arguments, isDeclared a = true) →
      (string start []).applyArguments arguments field = .ok (string settings rules) →
      (∀ rule ∈ rules, rule.hasText = true) ∧
        ∀ f, (string settings rules).validate store visit (.str s) = .error (.fault f) →
          f ∈ [Fault.badValue, .unknownEncoding, .unencodable]) ∧
    (∀ sep, Format.isGuidBody sep (Format.dropBraces s.toList) = true →
      ∃ c, ((Format.dropBraces s.toList).filter Format.isHexDigit)[12]? = some c) := by
  refine ⟨fun f => validate_text_eq_fault_iff, fun w h => validate_text_ok h,
    fun hpath hallowed hrules => validate_text_written hpath hallowed hrules,
    fun start arguments field harguments happlied => ?_, fun sep h => Format.exists_versionDigit h⟩
  have hstart : (string start []).Typed := by
    rintro _ _ ⟨⟩
    exact List.forall_mem_nil _
  have htyped := applyArguments_typed harguments happlied hstart settings rules rfl
  refine ⟨fun rule hrule => (htyped rule hrule).hasText, fun f hf => ?_⟩
  obtain ⟨-, rule, t, hreached, hfaults⟩ := validate_text_eq_fault_iff.mp hf
  exact hfaults.of_typed (htyped rule hreached.mem)

/-- A text of three bytes where four are asked for. -/
theorem string_total_short :
    let env : Environment := .epoch
    let visit : Visit := ⟨[.key "name"], ⟨true, false⟩, env⟩
    let size : Literal := .object [("limit", .int "4"), ("encoding", .string "utf-8")]
    ∃ rules, (string .plain []).applyArguments [("minLength", size)] "name" =
        .ok (string .plain rules) ∧
      ∃ detail, (string .plain rules).validate .empty visit (.str "né") =
        .error (.issue detail) ∧ detail.hasText = true := by
  intro env visit size
  have happlied : (string .plain []).applyArguments [("minLength", size)] "name" =
      .ok (string .plain [.size .min (.count 4) (.str "utf-8")]) := rfl
  obtain ⟨-, -, hwritten, hdeclared, -⟩ := string_total .empty visit .plain
    [.size .min (.count 4) (.str "utf-8")] "né"
  obtain ⟨hrules, -⟩ := hdeclared _ _ _ (by decide) happlied
  have hrefused : (string .plain [.size .min (.count 4) (.str "utf-8")]).validate .empty visit
      (.str "né") = .error (.issue _) := rfl
  exact ⟨_, happlied, _, hrefused, hwritten (by decide) nofun hrules _ hrefused⟩

/-- A raised two is a digit but cannot be read, so no card number can be told from it. -/
theorem not_string_total :
    ¬∀ (store : Store) (visit : Visit) (settings : Settings) (rules : List StringRule)
      (s : String) (f : Fault),
      (string settings rules).validate store visit (.str s) ≠ .error (.fault f) := by
  intro htotal
  refine htotal .empty ⟨[], ⟨false, false⟩, .epoch⟩ .plain [.creditCard] "²"
    .badValue (validate_text_eq_fault_iff.mpr ⟨rfl, .creditCard, "²", .head _ _ _, ?_⟩)
  have htext : "²".toList = ['²'] := rfl
  have hdigit : Unicode.isDigit '²' = true := by decide
  have hdecimal : Unicode.isDecimal '²' = false := by decide
  refine .creditCard ?_ ⟨'²', ?_, hdecimal⟩
  · rw [htext]
    exact List.forall_mem_singleton.mpr hdigit
  · rw [htext]
    exact List.mem_singleton_self '²'

end Schema

end InputGuard

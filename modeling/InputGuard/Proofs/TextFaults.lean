import InputGuard.Proofs.FormatFaults
import InputGuard.Proofs.WrittenIssues

/-!
# Faults of text checks

The check of a text ends with a fault in as many cases as its rules do: where the text has no size in
the encoding that is asked for, and where a format cannot be told. In all other cases it gives a text
or an issue.
-/

namespace InputGuard

namespace Value

/-- Why a text has no size in an encoding. -/
inductive EncodingFaults (codecs : Codecs) : Value → String → Fault → Prop
  | notText {encoding : Value} {s : String} (h : ∀ name, encoding ≠ .str name) :
      EncodingFaults codecs encoding s .wrongType
  | zero {name s : String} (h : '\x00' ∈ name.toList) :
      EncodingFaults codecs (.str name) s .badValue
  | unknown {name s : String} (hzero : '\x00' ∉ name.toList) (h : codecs.find? name = none) :
      EncodingFaults codecs (.str name) s .unknownEncoding
  | unencodable {name s : String} {codec : Codec} (hzero : '\x00' ∉ name.toList)
      (hcodec : codecs.find? name = some codec) (h : codec s.toList = none) :
      EncodingFaults codecs (.str name) s .unencodable

end Value

namespace StringRule

variable {codecs : Codecs} {visit : Visit} {rule : StringRule} {s t : String} {f : Fault}
  {encoding : Value}

lemma sizeIn_eq_error_iff : sizeIn codecs encoding s = .error f ↔
    encoding.truthy = true ∧ encoding.EncodingFaults codecs s f := by
  unfold sizeIn
  cases htruthy : encoding.truthy with
  | false => exact iff_of_false nofun (by simp)
  | true =>
    rw [Bool.not_true, if_neg Bool.false_ne_true]
    constructor
    · intro h
      refine ⟨rfl, ?_⟩
      split at h
      · rename_i name
        split at h
        · rename_i hzero
          cases h
          exact .zero (List.contains_iff_mem.mp hzero)
        · rename_i hzero
          have hzero' : '\x00' ∉ name.toList := mt List.contains_iff_mem.mpr hzero
          split at h
          · rename_i hnone
            cases h
            exact .unknown hzero' hnone
          · rename_i codec hcodec
            split at h
            · cases h
            · rename_i hsize
              cases h
              exact .unencodable hzero' hcodec hsize
      · rename_i hother
        cases h
        exact .notText fun name hname => hother name hname
    · rintro ⟨-, h⟩
      cases h with
      | notText h =>
        split
        · rename_i name
          exact absurd rfl (h name)
        · rfl
      | zero h =>
        dsimp only
        rw [if_pos (List.contains_iff_mem.mpr h)]
      | unknown hzero h =>
        dsimp only
        rw [if_neg (mt List.contains_iff_mem.mp hzero), h]
      | unencodable hzero hcodec h =>
        dsimp only
        rw [if_neg (mt List.contains_iff_mem.mp hzero), hcodec]
        dsimp only
        rw [h]

/-- When a rule ends the check of a text with a fault. -/
inductive Faults (codecs : Codecs) : StringRule → String → Fault → Prop
  | size {test : SizeTest} {limit : LengthLimit} {encoding : Value} {s : String} {f : Fault}
      (htruthy : encoding.truthy = true) (h : encoding.EncodingFaults codecs s f) :
      Faults codecs (.size test limit encoding) s f
  | creditCard {s : String} (hdigits : ∀ c ∈ s.toList, Unicode.isDigit c = true)
      (h : ∃ c ∈ s.toList, Unicode.isDecimal c = false) : Faults codecs .creditCard s .badValue
  | domain {o : Format.DomainOptions} {s : String} (h : o.Faults s.toList) :
      Faults codecs (.domain o) s .wrongType
  | email {o : Format.EmailOptions} {s : String} (h : o.Faults s.toList) :
      Faults codecs (.email o) s .wrongType
  | ip {o : Format.AddressOptions} {s : String} (h : o.Faults s.toList) :
      Faults codecs (.ip o) s .badValue

lemma require_ne_fault (issue : Issue) (holds : Bool) :
    require visit issue s holds ≠ .error (.fault f) := by
  unfold require
  split <;> nofun

lemma mend_ne_fault (issue : Issue) (mended : String) (particulars : Entries) :
    mend visit issue s mended particulars ≠ .error (.fault f) := by
  unfold mend
  split
  · nofun
  · split <;> nofun

/-- A rule whose format can fail does so as the format does. -/
lemma orFault_bind_eq_fault_iff {α : Type} {x : Except Fault α} {k : α → Checked String}
    (hk : ∀ a, k a ≠ .error (.fault f)) :
    orFault x >>= k = .error (.fault f) ↔ x = .error f := by
  rw [bind_eq_error, orFault_eq_error]
  constructor
  · rintro (⟨f', hf, heq⟩ | ⟨a, -, ha⟩)
    · cases heq
      exact hf
    · exact absurd ha (hk a)
  · exact fun h => Or.inl ⟨f, h, rfl⟩

lemma checkHex_ne_fault (byteAligned : Bool) :
    checkHex visit byteAligned s ≠ .error (.fault f) := by
  unfold checkHex
  split
  · nofun
  · split
    · split <;> nofun
    · nofun

lemma checkPattern_ne_fault (p : Pattern) (name : Value) (invert : Bool) :
    checkPattern visit p name invert s ≠ .error (.fault f) := by
  unfold checkPattern
  split <;> nofun

lemma checkSize_eq_fault_iff {test : SizeTest} {limit : LengthLimit} :
    checkSize visit test limit encoding s = .error (.fault f) ↔
      sizeIn visit.env.codecs encoding s = .error f := by
  refine orFault_bind_eq_fault_iff fun n => ?_
  dsimp only
  split
  · nofun
  · split <;> nofun

lemma checkEmail_eq_fault_iff {o : Format.EmailOptions} :
    checkEmail visit o s = .error (.fault f) ↔ Format.invalidAddresses o s.toList = .error f := by
  refine orFault_bind_eq_fault_iff fun invalid => ?_
  split <;> nofun

lemma checkIp_eq_fault_iff {o : Format.AddressOptions} :
    checkIp visit o s = .error (.fault f) ↔ Format.isAddress o s.toList = .error f := by
  refine orFault_bind_eq_fault_iff fun valid => ?_
  dsimp only
  split
  · nofun
  · split <;> nofun

lemma check_eq_fault_iff :
    rule.check visit s = .error (.fault f) ↔ rule.Faults visit.env.codecs s f := by
  cases rule with
  | alphanum | token | isoDuration | isoDate | base64 | dataUri | hostname | guid =>
    exact iff_of_false (require_ne_fault _ _) nofun
  | letterCase | trim | normalize => exact iff_of_false (mend_ne_fault _ _ _) nofun
  | hex byteAligned => exact iff_of_false (checkHex_ne_fault byteAligned) nofun
  | pattern p name invert => exact iff_of_false (checkPattern_ne_fault p name invert) nofun
  | size test limit encoding =>
    refine checkSize_eq_fault_iff.trans (sizeIn_eq_error_iff.trans ⟨?_, ?_⟩)
    · exact fun ⟨htruthy, h⟩ => .size htruthy h
    · rintro (⟨htruthy, h⟩ | _)
      exact ⟨htruthy, h⟩
  | creditCard =>
    refine (orFault_bind_eq_fault_iff fun _ => require_ne_fault _ _).trans
      (Format.isCardNumber_eq_error_iff.trans ⟨?_, ?_⟩)
    · rintro ⟨rfl, hdigits, h⟩
      exact .creditCard hdigits h
    · rintro (_ | ⟨hdigits, h⟩)
      exact ⟨rfl, hdigits, h⟩
  | domain o =>
    refine (orFault_bind_eq_fault_iff fun _ => require_ne_fault _ _).trans
      (Format.isDomain_eq_error_iff.trans ⟨?_, ?_⟩)
    · rintro ⟨rfl, h⟩
      exact .domain h
    · rintro (_ | _ | h)
      exact ⟨rfl, h⟩
  | email o =>
    refine checkEmail_eq_fault_iff.trans (Format.invalidAddresses_eq_error_iff.trans ⟨?_, ?_⟩)
    · rintro ⟨rfl, h⟩
      exact .email h
    · rintro (_ | _ | _ | h)
      exact ⟨rfl, h⟩
  | ip o =>
    refine checkIp_eq_fault_iff.trans (Format.isAddress_eq_error_iff.trans ⟨?_, ?_⟩)
    · rintro ⟨rfl, h⟩
      exact .ip h
    · rintro (_ | _ | _ | _ | h)
      exact ⟨rfl, h⟩

/-- Whether the options of a rule that its issue names can be written. -/
def hasText : StringRule → Bool
  | size _ limit encoding => limit.value.hasText && encoding.hasText
  | pattern _ name _ => name.hasText
  | _ => true

section Issues

variable (hpath : ∀ step ∈ visit.path, step.value.hasText = true)

include hpath

lemma require_written {issue : Issue} {holds : Bool} :
    Written (require visit issue s holds) := by
  unfold require
  split
  · exact .ok s
  · exact .refuse hpath rfl (List.forall_mem_nil _)

lemma mend_written {issue : Issue} {mended : String} {particulars : Entries}
    (hparticulars : ∀ e ∈ particulars, e.2.hasText = true) :
    Written (mend visit issue s mended particulars) := by
  unfold mend
  split
  · exact .ok mended
  · split
    · exact .ok s
    · exact .refuse hpath rfl hparticulars

lemma checkHex_written {byteAligned : Bool} : Written (checkHex visit byteAligned s) := by
  unfold checkHex
  split
  · exact .refuse hpath rfl (List.forall_mem_nil _)
  · split
    · split
      · exact .ok _
      · exact .refuse hpath rfl (List.forall_mem_nil _)
    · exact .ok s

lemma checkSize_written {test : SizeTest} {limit : LengthLimit} (hlimit : limit.value.hasText = true)
    (hencoding : encoding.hasText = true) : Written (checkSize visit test limit encoding s) := by
  refine (Written.orFault _).bind fun n _ => ?_
  dsimp only
  split
  · exact .ok s
  · have hparticulars : ∀ e ∈ [("limit", limit.value), ("encoding", encoding)],
        e.2.hasText = true := by
      simp [hlimit, hencoding]
    split
    · exact .refuse hpath rfl (List.forall_mem_nil _)
    · exact .refuse hpath rfl hparticulars

lemma checkPattern_written {p : Pattern} {name : Value} {invert : Bool}
    (hname : name.hasText = true) : Written (checkPattern visit p name invert s) := by
  unfold checkPattern
  split
  · have hparticulars : ∀ e ∈ [("name", name), ("regex", Value.str p.source)],
        e.2.hasText = true := by
      simp [hname, Value.hasText]
    exact .refuse hpath rfl hparticulars
  · exact .ok s

lemma checkEmail_written {o : Format.EmailOptions} : Written (checkEmail visit o s) := by
  refine (Written.orFault _).bind fun invalid _ => ?_
  split
  · exact .ok s
  · exact .refuse hpath rfl (List.forall_mem_singleton.mpr (Value.hasText_strings _))

lemma checkIp_written {o : Format.AddressOptions} : Written (checkIp visit o s) := by
  refine (Written.orFault _).bind fun valid _ => ?_
  dsimp only
  split
  · exact .ok s
  · have hcidr : ∀ e ∈ [("cidr", Value.str o.cidr.name)], e.2.hasText = true :=
      List.forall_mem_singleton.mpr rfl
    split
    · exact .refuse hpath rfl hcidr
    · refine .refuse hpath rfl (List.forall_mem_cons.mpr ⟨rfl, ?_⟩)
      exact List.forall_mem_singleton.mpr (Value.hasText_strings _)

lemma check_written (hrule : rule.hasText = true) : Written (rule.check visit s) := by
  cases rule with
  | alphanum | token | isoDuration | isoDate | base64 | dataUri | hostname | guid =>
    exact require_written hpath
  | letterCase | trim => exact mend_written hpath (List.forall_mem_nil _)
  | normalize form => exact mend_written hpath (List.forall_mem_singleton.mpr rfl)
  | hex byteAligned => exact checkHex_written hpath
  | size test limit encoding =>
    obtain ⟨hlimit, hencoding⟩ := Bool.and_eq_true_iff.mp hrule
    exact checkSize_written hpath hlimit hencoding
  | pattern p name invert => exact checkPattern_written hpath hrule
  | creditCard | domain => exact (Written.orFault _).bind fun _ _ => require_written hpath
  | email o => exact checkEmail_written hpath
  | ip o => exact checkIp_written hpath

end Issues

end StringRule

namespace Schema

variable {store : Store} {visit : Visit} {settings : Settings} {rules : List StringRule}
  {s : String} {f : Fault}

/-- When the check of a text ends with a fault: the text is allowed, and a rule is reached that does
so. -/
def TextFaults (visit : Visit) (settings : Settings) (rules : List StringRule) (s : String)
    (f : Fault) : Prop :=
  settings.permit (visit.under settings) (.str s) = .ok () ∧ ∃ rule t,
    RuleReached (fun s rule => rule.check (visit.under settings) s) rules s rule t ∧
      rule.Faults visit.env.codecs t f

lemma validate_text_eq_fault_iff :
    (string settings rules).validate store visit (.str s) = .error (.fault f) ↔
      TextFaults visit settings rules s f := by
  rw [validate_text, bind_eq_error]
  constructor
  · rintro (hpermit | ⟨⟨⟩, hpermit, hrules⟩)
    · exact absurd hpermit Settings.permit_ne_fault
    · obtain ⟨rule, t, hreached, hrule⟩ := foldlM_eq_error_iff.mp (map_eq_error.mp hrules)
      have hfaults := StringRule.check_eq_fault_iff.mp hrule
      exact ⟨hpermit, rule, t, hreached, hfaults⟩
  · rintro ⟨hpermit, rule, t, hreached, hf⟩
    refine Or.inr ⟨(), hpermit, map_eq_error.mpr (foldlM_eq_error_iff.mpr ⟨rule, t, hreached, ?_⟩)⟩
    exact StringRule.check_eq_fault_iff.mpr hf

lemma validate_text_ok {w : Value}
    (h : (string settings rules).validate store visit (.str s) = .ok w) : ∃ t, w = .str t := by
  rw [validate_text] at h
  obtain ⟨⟨⟩, -, h⟩ := bind_eq_ok.mp h
  obtain ⟨t, -, hw⟩ := bind_eq_ok.mp h
  exact ⟨t, (Except.ok.inj hw).symm⟩

lemma validate_text_written (hpath : ∀ step ∈ visit.path, step.value.hasText = true)
    (hallowed : ∀ values ∈ settings.allowed, (Value.list values).hasText = true)
    (hrules : ∀ rule ∈ rules, rule.hasText = true) :
    Written ((string settings rules).validate store visit (.str s)) := by
  have hpath' : ∀ step ∈ (visit.under settings).path, step.value.hasText = true := hpath
  have htext : (Value.str s).hasText = true := rfl
  rw [validate_text]
  refine (Settings.permit_written hpath' htext hallowed).bind fun _ _ => ?_
  refine Written.bind (Written.foldlM fun rule t hreached => ?_) fun _ _ => .ok _
  exact StringRule.check_written hpath' (hrules rule hreached.mem)

end Schema

end InputGuard

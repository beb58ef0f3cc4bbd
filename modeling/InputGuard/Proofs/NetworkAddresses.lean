import InputGuard.Proofs.FormatFaults
import InputGuard.Proofs.GuidShapes
import InputGuard.Proofs.SeparatedTexts

/-!
# Network addresses

What is accepted as a network address is an address of one of the versions asked for, perhaps with
the length of its network part after a slash, or a future address, which has no such part. So the
versions of a list are alternatives, and a network part that may be left out is one that is required
or forbidden.
-/

namespace InputGuard

open Unicode

namespace Format

/-- Addresses on their own, of versions that are asked for. -/
def IsWhole (versions : List AddressVersion) (s : List Char) : Prop :=
  .future ∈ versions ∧ isFutureAddress s = true ∨ ∃ v ∈ versions, addressVersion? s = some v

/-- Addresses of versions that are asked for, and the lengths of their network parts. -/
def IsNetwork (versions : List AddressVersion) (address length : List Char) : Prop :=
  ∃ v ∈ versions, addressVersion? address = some v ∧ isNetworkLength v.bits length = .ok true

/-- The texts that are addresses under the options: with a slash where it is not forbidden, and
without one where it is not required. -/
def AddressOptions.Admits (o : AddressOptions) (s : List Char) : Prop :=
  o.cidr ≠ .required ∧ '/' ∉ s ∧ IsWhole o.versions s ∨
    o.cidr ≠ .forbidden ∧ ∃ address length, '/' ∉ address ∧ s = address ++ '/' :: length ∧
      IsNetwork o.versions address length

variable {o : AddressOptions} {s address length : List Char} {versions V W : List AddressVersion}

lemma isAddress_whole_iff (h : '/' ∉ s) :
    isAddress o s = .ok true ↔ o.cidr ≠ .required ∧ IsWhole o.versions s := by
  unfold isAddress IsWhole
  rw [partitionOnChar_of_notMem h]
  by_cases hcidr : o.cidr = .required
  · simp [hcidr]
  · by_cases hfuture : .future ∈ o.versions ∧ isFutureAddress s = true
    · simp [hcidr, hfuture]
    · cases hversion : addressVersion? s with
      | none => simp [hcidr, hfuture, hversion]
      | some v => by_cases hv : v ∈ o.versions <;> simp [hcidr, hfuture, hversion, hv]

lemma isAddress_network_iff (h : '/' ∉ address) :
    isAddress o (address ++ '/' :: length) = .ok true ↔
      o.cidr ≠ .forbidden ∧ IsNetwork o.versions address length := by
  unfold isAddress IsNetwork
  rw [partitionOnChar_append h]
  by_cases hcidr : o.cidr = .forbidden
  · simp [hcidr]
  · cases hversion : addressVersion? address with
    | none => simp [hcidr, hversion]
    | some v => by_cases hv : v ∈ o.versions <;> simp [hcidr, hversion, hv]

lemma isAddress_eq_true_iff : isAddress o s = .ok true ↔ o.Admits s := by
  unfold AddressOptions.Admits
  by_cases hslash : '/' ∈ s
  · obtain ⟨address, length, rfl, haddress⟩ := List.eq_append_cons_of_mem hslash
    rw [isAddress_network_iff haddress, or_iff_right fun h => h.2.1 hslash]
    refine and_congr_right fun _ => ⟨fun h => ⟨_, _, haddress, rfl, h⟩, ?_⟩
    rintro ⟨address', length', haddress', heq, h⟩
    obtain ⟨rfl, rfl⟩ := append_sep_inj heq haddress haddress'
    exact h
  · rw [isAddress_whole_iff hslash, or_iff_left]
    · exact and_congr_right fun _ => (and_iff_right hslash).symm
    · rintro ⟨-, address, length, -, rfl, -⟩
      exact hslash (List.mem_append_right _ List.mem_cons_self)

/-- A `v`, hexadecimal digits, a dot and further characters. -/
def FutureForm (t : List Char) : Prop :=
  ∃ digits more, ConsistsOf isHexDigit digits ∧ ConsistsOf isFutureChar more ∧
    t = 'v' :: (digits ++ '.' :: more)

lemma FutureForm.notMem_lineFeed {t : List Char} (h : FutureForm t) : '\n' ∉ t := by
  obtain ⟨digits, more, hdigits, hmore, rfl⟩ := h
  rw [List.mem_cons, List.mem_append, List.mem_cons, not_or, not_or, not_or]
  exact ⟨by decide, hdigits.notMem (by decide), by decide, hmore.notMem (by decide)⟩

lemma isFutureAddress_iff : isFutureAddress s = true ↔ FutureForm (dropFinalLineFeed s) := by
  unfold isFutureAddress
  generalize dropFinalLineFeed s = t
  constructor
  · intro h
    split at h
    · rename_i rest
      simp only [Bool.and_eq_true, decide_eq_true_eq, beq_iff_eq, Bool.not_eq_true',
        List.isEmpty_eq_false_iff, List.all_eq_true] at h
      obtain ⟨⟨⟨hshorter, hdot⟩, hne⟩, hmore⟩ := h
      obtain ⟨more, hrest⟩ := List.head?_eq_some_iff.mp hdot
      have hsplit := @List.takeWhile_append_dropWhile _ isHexDigit rest
      rw [hrest] at hshorter hne hmore hsplit
      refine ⟨rest.takeWhile isHexDigit, more, ⟨?_, List.all_eq_true.mp List.all_takeWhile⟩,
        ⟨hne, hmore⟩, by rw [hsplit]⟩
      intro hnil
      rw [hnil, List.nil_append] at hsplit
      rw [hsplit] at hshorter
      exact lt_irrefl _ hshorter
    · cases h
  · rintro ⟨digits, more, hdigits, hmore, rfl⟩
    have hdrop : (digits ++ '.' :: more).dropWhile isHexDigit = '.' :: more := by
      rw [List.dropWhile_append_of_pos hdigits.2]
      exact List.dropWhile_cons_of_neg (by decide)
    have hpos := List.length_pos_iff.mpr hdigits.1
    simp only [hdrop, List.length_append, List.head?_cons, List.tail_cons, beq_self_eq_true,
      Bool.and_true, Bool.and_eq_true, decide_eq_true_eq, Bool.not_eq_true',
      List.isEmpty_eq_false_iff, List.all_eq_true]
    exact ⟨⟨by omega, hmore.1⟩, hmore.2⟩

section Patterns

open Pattern

def futureNode : Node :=
  .sequence (charSingle 'v') (.sequence (setRun [.range 48 57, .range 97 102, .range 65 70])
    (.sequence (charSingle '.') (.sequence (setRun (alphanumItems "-._~!$&'()*+,;=:".toList))
      (.anchor .finalEnd))))

def futurePattern : Pattern :=
  ⟨"^v[0-9a-fA-F]+\\.[A-Za-z0-9\\-._~!$&'()*+,;=:]+$", .none,
    .sequence (.anchor .textStart) futureNode⟩

lemma read_futurePattern : Pattern.read futurePattern.source .none = .ok futurePattern := by
  decide +kernel

lemma spells_future : SpellsBefore futureNode fun w rest =>
    Anchor.finalEnd.Before rest ∧ FutureForm w := by
  have hhex : Spells (setRun [.range 48 57, .range 97 102, .range 65 70])
      (ConsistsOf isHexDigit) := by
    refine spells_run fun c => ?_
    rw [Bool.eq_iff_iff, isHexDigit_iff]
    simp [SetItem.plainHolds, or_assoc]
  have hmore : Spells (setRun (alphanumItems "-._~!$&'()*+,;=:".toList))
      (ConsistsOf isFutureChar) := spells_run (alphanumItems_holds _)
  refine ((SpellsBefore.of_spells (spells_char 'v')).sequence
    ((SpellsBefore.of_spells hhex).sequence ((SpellsBefore.of_spells (spells_char '.')).sequence
      ((SpellsBefore.of_spells hmore).sequence (.anchor .finalEnd))))).congr fun w rest => ?_
  constructor
  · rintro ⟨_, _, rfl, rfl, digits, _, rfl, hdigits, _, _, rfl, rfl, more, _, rfl, hmore, rfl, hend⟩
    exact ⟨hend, digits, more, hdigits, hmore, by rw [List.append_nil]; rfl⟩
  · rintro ⟨hend, digits, more, hdigits, hmore, rfl⟩
    exact ⟨['v'], _, rfl, rfl, digits, _, rfl, hdigits, ['.'], more, rfl, rfl, more, [],
      (List.append_nil _).symm, hmore, rfl, hend⟩

/-- The texts of future addresses are those that the pattern finds. -/
theorem isFutureAddress_eq_search (s : List Char) :
    isFutureAddress s = futurePattern.search (String.ofList s) := by
  rw [Bool.eq_iff_iff, isFutureAddress_iff]
  exact (spells_future.search_iff (fun _ h => h.notMem_lineFeed) rfl rfl).symm

end Patterns

/-- A network part is decimal digits, and their value no more than the length of an address. -/
lemma isNetworkLength_eq_true_iff {bits : ℕ} : isNetworkLength bits s = .ok true ↔
    s ≠ [] ∧ (∀ c ∈ s, isDecimal c = true) ∧ s.length ≤ integerDigitLimit ∧
      digitsValue (s.map latin) ≤ bits := by
  unfold isNetworkLength
  constructor
  · intro h
    split at h
    · cases h
    · rename_i hdigits
      rw [Bool.or_eq_true, not_or, List.isEmpty_iff, Bool.not_eq_true', Bool.not_eq_false,
        List.all_eq_true] at hdigits
      obtain ⟨hne, hdigits⟩ := hdigits
      have hread := readInteger?_eq_none_iff hne hdigits
      split at h
      · rename_i n hn
        rw [hn] at hread
        have hreadable := not_or.mp (mt hread.mpr nofun)
        have hdecimal : ∀ c ∈ s, isDecimal c = true := by simpa using hreadable.1
        rw [readInteger?_of_isDecimal hne hdecimal, if_neg hreadable.2] at hn
        obtain rfl := Option.some.inj hn
        refine ⟨hne, hdecimal, not_lt.mp hreadable.2, ?_⟩
        simpa using h
      · cases h
  · rintro ⟨hne, hdecimal, hlength, hvalue⟩
    have hdigits : (s.isEmpty || !s.all isDigit) = false := by
      rw [Bool.or_eq_false_iff, List.isEmpty_eq_false_iff, Bool.not_eq_false', List.all_eq_true]
      exact ⟨hne, fun c hc => by rw [isDigit, hdecimal c hc, Bool.true_or]⟩
    rw [hdigits, if_neg Bool.false_ne_true, readInteger?_of_isDecimal hne hdecimal,
      if_neg (not_lt.mpr hlength)]
    simpa using hvalue

variable {c : Cidr}

lemma isWhole_or (h : ∀ v, v ∈ versions ↔ v ∈ V ∨ v ∈ W) :
    IsWhole versions s ↔ IsWhole V s ∨ IsWhole W s := by
  unfold IsWhole
  simp only [h, or_and_right, exists_or]
  exact or_or_or_comm

lemma isNetwork_or (h : ∀ v, v ∈ versions ↔ v ∈ V ∨ v ∈ W) :
    IsNetwork versions address length ↔
      IsNetwork V address length ∨ IsNetwork W address length := by
  unfold IsNetwork
  simp only [h, or_and_right, exists_or]

lemma versions_of_ne (h : V ≠ []) : AddressOptions.versions ⟨V, c⟩ = V := by
  unfold AddressOptions.versions
  rw [List.isEmpty_eq_false_iff.mpr h, if_neg Bool.false_ne_true]

/-- Versions are alternatives. -/
lemma admits_or (hV : V ≠ []) (hW : W ≠ []) (h : ∀ v, v ∈ versions ↔ v ∈ V ∨ v ∈ W) :
    AddressOptions.Admits ⟨versions, c⟩ s ↔
      AddressOptions.Admits ⟨V, c⟩ s ∨ AddressOptions.Admits ⟨W, c⟩ s := by
  have hversions : versions ≠ [] := by
    obtain ⟨v, hv⟩ := List.exists_mem_of_ne_nil V hV
    exact List.ne_nil_of_mem ((h v).mpr (Or.inl hv))
  unfold AddressOptions.Admits
  simp only [versions_of_ne hversions, versions_of_ne hV, versions_of_ne hW, isWhole_or h,
    isNetwork_or h, and_or_left, exists_or]
  exact or_or_or_comm

/-- A network part that may be left out is one that is required or forbidden. -/
lemma admits_maybe_iff : AddressOptions.Admits ⟨V, .maybe⟩ s ↔
    AddressOptions.Admits ⟨V, .required⟩ s ∨ AddressOptions.Admits ⟨V, .forbidden⟩ s := by
  unfold AddressOptions.Admits
  simp only [ne_eq, reduceCtorEq, not_false_eq_true, not_true_eq_false, true_and, false_and,
    false_or, or_false]
  exact or_comm

lemma not_admits_both (hrequired : AddressOptions.Admits ⟨V, .required⟩ s) :
    ¬AddressOptions.Admits ⟨V, .forbidden⟩ s := by
  obtain ⟨hcidr, -⟩ | ⟨-, address, length, -, rfl, -⟩ := hrequired
  · exact absurd rfl hcidr
  · rintro (⟨-, hslash, -⟩ | ⟨hcidr, -⟩)
    · exact hslash (List.mem_append_right _ List.mem_cons_self)
    · exact absurd rfl hcidr

lemma addressVersion?_ne_future : addressVersion? s ≠ some .future := by
  unfold addressVersion?
  split
  · nofun
  · split
    · nofun
    · split <;> nofun

/-- What is admitted with a slash is an address before it and a network part that fits after it. -/
lemma Admits.network (h : AddressOptions.Admits ⟨V, c⟩ (address ++ '/' :: length))
    (haddress : '/' ∉ address) : AddressOptions.Admits ⟨V, .forbidden⟩ address ∧ length ≠ [] ∧
      (∀ d ∈ length, isDecimal d = true) ∧
      (addressVersion? address = some .v4 ∧ digitsValue (length.map latin) ≤ 32 ∨
        addressVersion? address = some .v6 ∧ digitsValue (length.map latin) ≤ 128) := by
  rw [← isAddress_eq_true_iff, isAddress_network_iff haddress] at h
  obtain ⟨-, v, hv, hversion, hlength⟩ := h
  obtain ⟨hne, hdecimal, -, hvalue⟩ := isNetworkLength_eq_true_iff.mp hlength
  refine ⟨Or.inl ⟨nofun, haddress, Or.inr ⟨v, hv, hversion⟩⟩, hne, hdecimal, ?_⟩
  cases v with
  | v4 => exact Or.inl ⟨hversion, hvalue⟩
  | v6 => exact Or.inr ⟨hversion, hvalue⟩
  | future => exact absurd hversion addressVersion?_ne_future

end Format

open Defined Format

/-- A version as it is written in a directive. -/
def versionSymbol : AddressVersion → String
  | .v4 => "IPV4"
  | .v6 => "IPV6"
  | .future => "IPVFUTURE"

def cidrSymbol : Cidr → String
  | .maybe => "OPTIONAL"
  | .required => "REQUIRED"
  | .forbidden => "FORBIDDEN"

/-- The options of an address as they are written in a directive, each of which may be absent. -/
def ipLiteral (versions? : Option (List AddressVersion)) (cidr? : Option Cidr) : Literal :=
  .object ((versions?.map fun versions =>
      ("version", .list ((versions.map versionSymbol).map .enum))).toList ++
    (cidr?.map fun c => ("cidr", .enum (cidrSymbol c))).toList)

/-- The options of an address as the operation takes them. -/
def ipOptions (versions? : Option (List AddressVersion)) (cidr? : Option Cidr) : Value :=
  .object ((versions?.map fun versions => ("version", .list (versions.map (.str ·.name)))).toList ++
    (cidr?.map fun c => ("cidr", .str c.name)).toList)

variable {versions? : Option (List AddressVersion)} {cidr? : Option Cidr}

lemma lowerAll_versionSymbols (versions : List AddressVersion) :
    lowerAll ((versions.map versionSymbol).map .str) = versions.map (.str ·.name) := by
  rw [lowerAll_strs, List.map_map]
  refine List.map_congr_left fun v _ => ?_
  cases v <;> rfl

lemma mapM_addressVersion (versions : List AddressVersion) :
    (versions.map (Value.str ·.name)).mapM StringRule.addressVersion = .ok versions := by
  rw [mapM_eq_ok, List.forall₂_map_left_iff, List.forall₂_same]
  intro v _
  cases v <;> rfl

lemma value_ipLiteral (versions? : Option (List AddressVersion)) (cidr? : Option Cidr) :
    (ipLiteral versions? cidr?).value = .ok (.object
      ((versions?.map fun versions =>
          ("version", .list ((versions.map versionSymbol).map .str))).toList ++
        (cidr?.map fun c => ("cidr", .str (cidrSymbol c))).toList)) := by
  cases versions? <;> cases cidr? <;>
    simp only [ipLiteral, Literal.value, Literal.entries, values_enums, Option.map_none,
      Option.map_some, Option.toList_none, Option.toList_some, List.nil_append,
      List.singleton_append] <;> rfl

/-- Symbols are made small. -/
lemma read_ipOptions (versions? : Option (List AddressVersion)) (cidr? : Option Cidr) :
    ArgumentForm.addressOptions.read (.object
      ((versions?.map fun versions =>
          ("version", .list ((versions.map versionSymbol).map .str))).toList ++
        (cidr?.map fun c => ("cidr", .str (cidrSymbol c))).toList)) =
      .ok [ipOptions versions? cidr?] := by
  cases versions? with
  | none => rcases cidr? with _ | _ | _ | _ <;> rfl
  | some versions =>
    unfold ipOptions
    rw [Option.map_some, Option.map_some, ← lowerAll_versionSymbols]
    rcases cidr? with _ | _ | _ | _ <;> rfl

lemma cidrOf_name (c : Cidr) : StringRule.cidrOf (.str c.name) = .ok c := by
  cases c <;> rfl

lemma optionalParts_list (items : List Value) : (Value.list items).optionalParts = .ok items := by
  cases items <;> rfl

lemma ipOf_ipOptions (versions? : Option (List AddressVersion)) (cidr? : Option Cidr) :
    StringRule.ipOf [ipOptions versions? cidr?] =
      .ok (.ip ⟨versions?.getD [], cidr?.getD .maybe⟩) := by
  have hcidr : ∀ entries, lookup? "cidr" entries = cidr?.map (.str ·.name) →
      StringRule.cidrOf (Value.option "cidr" entries) = .ok (cidr?.getD .maybe) := by
    intro entries h
    rw [Value.option, h]
    cases cidr? with
    | none => rfl
    | some c => exact cidrOf_name c
  cases versions? with
  | none =>
    refine bind_eq_ok.mpr ⟨_, rfl, bind_eq_ok.mpr ⟨_, hcidr _ ?_, bind_eq_ok.mpr ⟨[], ?_, rfl⟩⟩⟩
    · cases cidr? <;> rfl
    · cases cidr? <;> rfl
  | some versions =>
    refine bind_eq_ok.mpr ⟨_, rfl, bind_eq_ok.mpr ⟨_, hcidr _ ?_, bind_eq_ok.mpr ⟨_,
      congrArg lift (optionalParts_list _), bind_eq_ok.mpr ⟨_, mapM_addressVersion versions, rfl⟩⟩⟩⟩
    cases cidr? <;> rfl

lemma ip_addedBy (versions? : Option (List AddressVersion)) (cidr? : Option Cidr) :
    (StringRule.ip ⟨versions?.getD [], cidr?.getD .maybe⟩).AddedBy "ip"
      [ipOptions versions? cidr?] := by
  intro settings rules
  change ((some <$> StringRule.ipOf [ipOptions versions? cidr?]) >>= fun rule =>
    pure (rule.map fun rule => Schema.string settings (rules ++ [rule]))) = _
  rw [ipOf_ipOptions]
  rfl

/-- The rule that the options of a directive give. -/
lemma applyArgument_ip (versions? : Option (List AddressVersion)) (cidr? : Option Cidr)
    (field : String) (settings : Settings) (rules : List StringRule) :
    (Schema.string settings rules).applyArgument field ("ip", ipLiteral versions? cidr?) =
      .ok (.string settings (rules ++ [.ip ⟨versions?.getD [], cidr?.getD .maybe⟩])) :=
  applyArgument_of_addedBy (m := .plain "ip" .addressOptions) rfl (by decide) rfl
    (value_ipLiteral _ _) (read_ipOptions _ _) (ip_addedBy _ _)

lemma ip_accepts_iff {store : Store} {prefs : Preferences} {env : Environment} {s : List Char}
    (o : AddressOptions) : (StringRule.ip o).Accepts store prefs env s ↔ o.Admits s := by
  rw [StringRule.Accepts, StringRule.gives_iff, StringRule.check, StringRule.checkIp,
    String.toList_ofList, ← isAddress_eq_true_iff]
  cases isAddress o s with
  | error e => exact iff_of_false (by rintro ⟨⟩) (by rintro ⟨⟩)
  | ok valid =>
    cases valid with
    | true => exact iff_of_true rfl rfl
    | false =>
      refine iff_of_false ?_ (by rintro ⟨⟩)
      change ¬((if o.requested.isEmpty then _ else _ : Checked String) = _)
      split <;> rintro ⟨⟩

open StringRule

/-- The versions of a list are alternatives, and no list stands for all of them. A network part that
may be left out is one that is required or one that is forbidden, which exclude each other. What is
accepted with a slash is an address before the first slash, which is accepted on its own where a
network part is forbidden, and after it decimal digits with a value no more than the number of bits
of such an address. -/
theorem ip_accepts (store : Store) (prefs : Preferences) (env : Environment) (s : List Char)
    (c : Cidr) (V W U : List AddressVersion) (hV : V ≠ []) (hW : W ≠ [])
    (hU : ∀ v, v ∈ U ↔ v ∈ V ∨ v ∈ W) :
    let accepts (versions : List AddressVersion) (cidr : Cidr) (t : List Char) :=
      (ip ⟨versions, cidr⟩).Accepts store prefs env t
    (∀ versions? cidr? field settings rules,
      (Schema.string settings rules).applyArgument field ("ip", ipLiteral versions? cidr?) =
        .ok (.string settings (rules ++ [.ip ⟨versions?.getD [], cidr?.getD .maybe⟩]))) ∧
    (accepts U c s ↔ accepts V c s ∨ accepts W c s) ∧
    (accepts [] c s ↔ accepts [.v4, .v6, .future] c s) ∧
    (accepts V .maybe s ↔ accepts V .required s ∨ accepts V .forbidden s) ∧
    ¬(accepts V .required s ∧ accepts V .forbidden s) ∧
    ∀ address length, s = address ++ '/' :: length → '/' ∉ address → accepts V c s →
      accepts V .forbidden address ∧ length ≠ [] ∧ (∀ d ∈ length, isDecimal d = true) ∧
        (addressVersion? address = some .v4 ∧ digitsValue (length.map latin) ≤ 32 ∨
          addressVersion? address = some .v6 ∧ digitsValue (length.map latin) ≤ 128) := by
  intro accepts
  simp only [accepts, ip_accepts_iff]
  refine ⟨applyArgument_ip, admits_or hV hW hU, Iff.rfl, admits_maybe_iff,
    fun h => not_admits_both h.1 h.2, ?_⟩
  rintro address length rfl haddress h
  exact Admits.network h haddress

theorem ip_accepts_network :
    let V : List AddressVersion := [.v4]
    let W : List AddressVersion := [.v6]
    let U : List AddressVersion := [.v4, .v6]
    let prefs : Preferences := ⟨false, false⟩
    let env : Environment := .epoch
    V ≠ [] ∧ W ≠ [] ∧ (∀ v, v ∈ U ↔ v ∈ V ∨ v ∈ W) ∧
      (ip ⟨U, .maybe⟩).Accepts .empty prefs env "10.0.0.0/8".toList ∧
      (ip ⟨V, .forbidden⟩).Accepts .empty prefs env "10.0.0.0".toList := by
  intro V W U prefs env
  have hU : ∀ v, v ∈ U ↔ v ∈ V ∨ v ∈ W := by
    intro v
    cases v <;> decide
  have haddress : isAddress ⟨V, .maybe⟩ "10.0.0.0/8".toList = .ok true := by decide +kernel
  have haccepted : (ip ⟨V, .maybe⟩).Accepts .empty prefs env "10.0.0.0/8".toList :=
    (ip_accepts_iff _).mpr (isAddress_eq_true_iff.mp haddress)
  obtain ⟨-, hunion, -, -, -, hnetwork⟩ := ip_accepts .empty prefs env "10.0.0.0/8".toList .maybe
    V W U (by decide) (by decide) hU
  obtain ⟨hforbidden, -⟩ := hnetwork "10.0.0.0".toList ['8'] (by decide) (by decide) haccepted
  exact ⟨by decide, by decide, hU, hunion.mpr (Or.inl haccepted), hforbidden⟩

end InputGuard

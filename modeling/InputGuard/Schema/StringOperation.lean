import InputGuard.Schema.Definition

/-!
# Operations on schemas for texts

`StringRule.ofOperation` gives the rule that an operation adds.
-/

namespace InputGuard.StringRule

open Defined

/-- Whether padding is asked for; only the value false says that it is not. -/
def asksPadding (options : Entries) : Bool :=
  match lookup? "padding_required" options with
  | some (.bool false) => false
  | _ => true

def base64Of (args : List Value) : Defined StringRule := do
  let options ← optionsOf args
  return base64 ⟨asksPadding options, (Value.option "url_safe" options).truthy⟩

def letterCaseOf (v : Value) : Defined StringRule :=
  match v with
  | .str "lower" => .ok (letterCase .lower)
  | .str "upper" => .ok (letterCase .upper)
  | _ => refuse (.letterCase v)

def normalizeOf (v : Value) : Defined StringRule :=
  match v with
  | .str s =>
    match Unicode.NormalForm.ofName? (Unicode.upper s) with
    | some form => .ok (normalize form)
    | none => refuse .normalForm
  | _ => fault .missingMember

def lengthLimit (test : SizeTest) (v : Value) : Defined LengthLimit :=
  match v with
  | .bool b => .ok (.flag b)
  | _ => .count <$> sizeLimit test.name v

def sizeOf (test : SizeTest) (args : List Value) : Defined StringRule := do
  let (limit, encoding) ← oneOrTwo args
  return size test (← lengthLimit test limit) encoding

/-- The pattern of a value, if it has one. -/
def patternOf (v : Value) : Defined Pattern :=
  match v with
  | .str source => Defined.pattern source .none
  | .pattern p => .ok p
  | _ => fault .missingMember

def patternRuleOf (args : List Value) : Defined StringRule := do
  let (v, options) ← oneOrTwo args
  let p ← patternOf v
  let options ← lift options.options
  return pattern p (Value.option "name" options) (Value.option "invert" options).truthy

def labelBound (v : Value) : Format.LabelBound :=
  match v.number? with
  | some x => .number x
  | none => .incomparable

/-- A domain has two labels at least unless another number is given. -/
def domainOptions (options : Entries) : Format.DomainOptions where
  allowUnicode := ((lookup? "allow_unicode" options).getD (.bool true)).truthy
  least :=
    let v := Value.option "min_domain_segments" options
    if v.truthy then labelBound v else .number (.int 2)
  most :=
    let v := Value.option "max_domain_segments" options
    if v.isNull then none else some (labelBound v)

/-- The separator of a list of addresses: a comma unless another one is given. -/
def addressSeparator (v : Value) : Option String :=
  if !v.truthy then some ","
  else match v with
    | .str s => some s
    | _ => none

def emailOptions (options : Entries) : Format.EmailOptions where
  domain := domainOptions options
  ignoreLength := (Value.option "ignore_length" options).truthy
  multiple := (Value.option "multiple" options).truthy
  separator := addressSeparator (Value.option "separator" options)

def guidVersions : List (String × Char) :=
  [("uuidv1", '1'), ("uuidv2", '2'), ("uuidv3", '3'), ("uuidv4", '4'), ("uuidv5", '5')]

def guidVersion (v : Value) : Defined Char :=
  match v with
  | .str name =>
    match lookup? name guidVersions with
    | some digit => .ok digit
    | none => refuse (.guidVersion v)
  | _ => if v.canBeKey then refuse (.guidVersion v) else fault .wrongType

/-- Dashes or colons unless there is none or another text. -/
def guidSeparator (v : Value) : Defined Format.GuidSeparator :=
  match v with
  | .bool false => .ok .absent
  | .null => .ok .dashOrColon
  | .str s => .ok (.text s)
  | _ => if v.same (.bool true) then .ok .dashOrColon else fault .wrongType

def guidOf (args : List Value) : Defined StringRule := do
  let options ← optionsOf args
  let versions ← lift (Value.option "version" options).optionalParts
  let versions ← versions.mapM guidVersion
  return guid ⟨versions, ← guidSeparator (Value.option "separator" options)⟩

def cidrOf (v : Value) : Defined Format.Cidr :=
  if !v.truthy then .ok .maybe
  else match v with
    | .str name =>
      match Format.Cidr.ofName? name with
      | some c => .ok c
      | none => refuse (.cidr v)
    | _ => refuse (.cidr v)

def addressVersion (v : Value) : Defined Format.AddressVersion :=
  match v with
  | .str name =>
    match Format.AddressVersion.ofName? name with
    | some version => .ok version
    | none => refuse (.addressVersion v)
  | _ => refuse (.addressVersion v)

def ipOf (args : List Value) : Defined StringRule := do
  let options ← optionsOf args
  let cidr ← cidrOf (Value.option "cidr" options)
  let versions ← lift (Value.option "version" options).optionalParts
  return ip ⟨← versions.mapM addressVersion, cidr⟩

/-- The rule that an operation adds. Trimming that is switched off adds none. -/
def ofOperation (operation : String) (args : List Value) : Defined (Option StringRule) :=
  match operation with
  | "alphanum" => nothing (some alphanum) args
  | "token" => nothing (some token) args
  | "hex" => do
    let options ← optionsOf args
    return some (hex (Value.option "byte_aligned" options).truthy)
  | "iso_duration" => nothing (some isoDuration) args
  | "iso_date" => nothing (some isoDate) args
  | "case" => do some <$> letterCaseOf (← single args)
  | "lowercase" => nothing (some (letterCase .lower)) args
  | "uppercase" => nothing (some (letterCase .upper)) args
  | "trim" => do
    let enabled ← singleOr (.bool true) args
    return if enabled.truthy then some trim else none
  | "normalize" => do some <$> normalizeOf (← singleOr (.str "NFC") args)
  | "length" => some <$> sizeOf .length args
  | "max" => some <$> sizeOf .max args
  | "min" => some <$> sizeOf .min args
  | "pattern" => some <$> patternRuleOf args
  | "base64" => some <$> base64Of args
  | "data_uri" => do return some (dataUri (asksPadding (← optionsOf args)))
  | "credit_card" => nothing (some creditCard) args
  | "domain" => do return some (domain (domainOptions (← entryListOf args)))
  | "email" => do return some (email (emailOptions (← entryListOf args)))
  | "hostname" => nothing (some hostname) args
  | "guid" => some <$> guidOf args
  | "ip" => some <$> ipOf args
  | _ => fault .missingMember

end InputGuard.StringRule

import InputGuard.Value.Text

/-!
# Issues

The issues that a check can have with a value. An issue has a name, a code under which it is
reported, and a message with gaps for the particulars of the case.
-/

namespace InputGuard

inductive Issue
  | anyOnly
  | stringBase
  | stringEmpty
  | stringAlphanum
  | stringBase64
  | stringCreditCard
  | stringDataUri
  | stringDomain
  | stringEmail
  | stringGuid
  | stringHex
  | stringHexAlign
  | stringHostname
  | stringIp
  | stringIpVersion
  | stringIsoDate
  | stringIsoDuration
  | stringLength
  | stringLowercase
  | stringMax
  | stringMin
  | stringNormalize
  | stringPatternBase
  | stringPatternName
  | stringPatternInvertBase
  | stringPatternInvertName
  | stringToken
  | stringTrim
  | stringUppercase
  | numberBase
  | numberInfinity
  | numberGreater
  | numberInteger
  | numberLess
  | numberMax
  | numberMin
  | numberMultiple
  | numberNegative
  | numberPort
  | numberPositive
  | numberPrecision
  | numberUnsafe
  | dateBase
  | dateFormatIso
  | dateFormatMilliseconds
  | dateFormatSeconds
  | dateGreater
  | dateLess
  | dateMax
  | dateMin
  | booleanBase
  | arrayBase
  | arrayLength
  | arrayMax
  | arrayMin
  | arraySort
  | arraySortMismatching
  | arrayUnique
  | objectBase
  | objectUnknown
  | objectAnd
  | objectLength
  | objectMax
  | objectMin
  | objectMissing
  | objectNand
  | objectOxor
  | objectWith
  | objectWithout
  | objectXor
  deriving DecidableEq, Repr

namespace Issue

def name : Issue → String
  | anyOnly => "any.only"
  | stringBase => "string.base"
  | stringEmpty => "string.empty"
  | stringAlphanum => "string.alphanum"
  | stringBase64 => "string.base64"
  | stringCreditCard => "string.creditCard"
  | stringDataUri => "string.dataUri"
  | stringDomain => "string.domain"
  | stringEmail => "string.email"
  | stringGuid => "string.guid"
  | stringHex => "string.hex"
  | stringHexAlign => "string.hexAlign"
  | stringHostname => "string.hostname"
  | stringIp => "string.ip"
  | stringIpVersion => "string.ipVersion"
  | stringIsoDate => "string.isoDate"
  | stringIsoDuration => "string.isoDuration"
  | stringLength => "string.length"
  | stringLowercase => "string.lowercase"
  | stringMax => "string.max"
  | stringMin => "string.min"
  | stringNormalize => "string.normalize"
  | stringPatternBase => "string.pattern.base"
  | stringPatternName => "string.pattern.name"
  | stringPatternInvertBase => "string.pattern.invert.base"
  | stringPatternInvertName => "string.pattern.invert.name"
  | stringToken => "string.token"
  | stringTrim => "string.trim"
  | stringUppercase => "string.uppercase"
  | numberBase => "number.base"
  | numberInfinity => "number.infinity"
  | numberGreater => "number.greater"
  | numberInteger => "number.integer"
  | numberLess => "number.less"
  | numberMax => "number.max"
  | numberMin => "number.min"
  | numberMultiple => "number.multiple"
  | numberNegative => "number.negative"
  | numberPort => "number.port"
  | numberPositive => "number.positive"
  | numberPrecision => "number.precision"
  | numberUnsafe => "number.unsafe"
  | dateBase => "date.base"
  | dateFormatIso => "date.format.iso"
  | dateFormatMilliseconds => "date.format.javascript"
  | dateFormatSeconds => "date.format.unix"
  | dateGreater => "date.greater"
  | dateLess => "date.less"
  | dateMax => "date.max"
  | dateMin => "date.min"
  | booleanBase => "boolean.base"
  | arrayBase => "array.base"
  | arrayLength => "array.length"
  | arrayMax => "array.max"
  | arrayMin => "array.min"
  | arraySort => "array.sort"
  | arraySortMismatching => "array.sort.mismatching"
  | arrayUnique => "array.unique"
  | objectBase => "object.base"
  | objectUnknown => "object.unknown"
  | objectAnd => "object.and"
  | objectLength => "object.length"
  | objectMax => "object.max"
  | objectMin => "object.min"
  | objectMissing => "object.missing"
  | objectNand => "object.nand"
  | objectOxor => "object.oxor"
  | objectWith => "object.with"
  | objectWithout => "object.without"
  | objectXor => "object.xor"

/-- The message; a name in braces is a gap. -/
def template : Issue → String
  | anyOnly => "\"{label}\" must be one of {valids}"
  | stringBase => "\"{label}\" must be a string"
  | stringEmpty => "\"{label}\" is not allowed to be empty"
  | stringAlphanum => "\"{label}\" must only contain alpha-numeric characters"
  | stringBase64 => "\"{label}\" must be a valid base64 string"
  | stringCreditCard => "\"{label}\" must be a credit card"
  | stringDataUri => "\"{label}\" must be a valid dataUri string"
  | stringDomain => "\"{label}\" must contain a valid domain name"
  | stringEmail => "\"{label}\" must be a valid email"
  | stringGuid => "\"{label}\" must be a valid GUID"
  | stringHex => "\"{label}\" must only contain hexadecimal characters"
  | stringHexAlign => "\"{label}\" hex decoded representation must be byte aligned"
  | stringHostname => "\"{label}\" must be a valid hostname"
  | stringIp => "\"{label}\" must be a valid ip address with a {cidr} CIDR"
  | stringIpVersion =>
    "\"{label}\" must be a valid ip address of one of the following versions " ++
      "{version} with a {cidr} CIDR"
  | stringIsoDate => "\"{label}\" must be in iso format"
  | stringIsoDuration => "\"{label}\" must be a valid ISO 8601 duration"
  | stringLength => "\"{label}\" length must be {limit} characters long"
  | stringLowercase => "\"{label}\" must only contain lowercase characters"
  | stringMax => "\"{label}\" length must be less than or equal to {limit} characters long"
  | stringMin => "\"{label}\" length must be at least {limit} characters long"
  | stringNormalize => "\"{label}\" must be unicode normalized in the {form} form"
  | stringPatternBase =>
    "\"{label}\" with value \"{value}\" fails to match the required pattern: {regex}"
  | stringPatternName => "\"{label}\" with value \"{value}\" fails to match the {name} pattern"
  | stringPatternInvertBase =>
    "\"{label}\" with value \"{value}\" matches the inverted pattern: {regex}"
  | stringPatternInvertName =>
    "\"{label}\" with value \"{value}\" matches the inverted {name} pattern"
  | stringToken => "\"{label}\" must only contain alpha-numeric and underscore characters"
  | stringTrim => "\"{label}\" must not have leading or trailing whitespace"
  | stringUppercase => "\"{label}\" must only contain uppercase characters"
  | numberBase => "\"{label}\" must be a number"
  | numberInfinity => "\"{label}\" cannot be infinity"
  | numberGreater => "\"{label}\" must be greater than {limit}"
  | numberInteger => "\"{label}\" must be an integer"
  | numberLess => "\"{label}\" must be less than {limit}"
  | numberMax => "\"{label}\" must be less than or equal to {limit}"
  | numberMin => "\"{label}\" must be greater than or equal to {limit}"
  | numberMultiple => "\"{label}\" must be a multiple of {multiple}"
  | numberNegative => "\"{label}\" must be a negative number"
  | numberPort => "\"{label}\" must be a valid port"
  | numberPositive => "\"{label}\" must be a positive number"
  | numberPrecision => "\"{label}\" must have no more than {limit} decimal places"
  | numberUnsafe => "\"{label}\" must be a safe number"
  | dateBase => "\"{label}\" must be a valid date"
  | dateFormatIso => "\"{label}\" must be in ISO 8601 date format"
  | dateFormatMilliseconds => "\"{label}\" must be in timestamp or number of milliseconds format"
  | dateFormatSeconds => "\"{label}\" must be in timestamp or number of seconds format"
  | dateGreater => "\"{label}\" must be greater than {limit}"
  | dateLess => "\"{label}\" must be less than {limit}"
  | dateMax => "\"{label}\" must be less than or equal to {limit}"
  | dateMin => "\"{label}\" must be greater than or equal to {limit}"
  | booleanBase => "\"{label}\" must be a boolean"
  | arrayBase => "\"{label}\" must be an array"
  | arrayLength => "\"{label}\" must contain {limit} items"
  | arrayMax => "\"{label}\" must contain less than or equal to {limit} items"
  | arrayMin => "\"{label}\" must contain at least {limit} items"
  | arraySort => "\"{label}\" must be sorted in {order} order by {by}"
  | arraySortMismatching => "\"{label}\" cannot be sorted due to mismatching types"
  | arrayUnique => "\"{label}\" contains a duplicate value"
  | objectBase => "\"{label}\" must be of type object"
  | objectUnknown => "\"{label}\" is not allowed"
  | objectAnd => "\"{label}\" contains {present} without its required peers {missing}"
  | objectLength => "\"{label}\" must have {limit} keys"
  | objectMax => "\"{label}\" must have less than or equal to {limit} keys"
  | objectMin => "\"{label}\" must have at least {limit} keys"
  | objectMissing => "\"{label}\" must contain at least one of {peers}"
  | objectNand => "\"{main}\" must not exist simultaneously with {peers}"
  | objectOxor => "\"{label}\" contains a conflict between optional exclusive peers {peers}"
  | objectWith => "\"{main}\" missing required peer \"{peer}\""
  | objectWithout => "\"{main}\" conflict with forbidden peer \"{peer}\""
  | objectXor => "\"{label}\" contains a conflict between exclusive peers {peers}"

def all : List Issue := [
  anyOnly, stringBase, stringEmpty, stringAlphanum, stringBase64, stringCreditCard,
  stringDataUri, stringDomain, stringEmail, stringGuid, stringHex, stringHexAlign,
  stringHostname, stringIp, stringIpVersion, stringIsoDate, stringIsoDuration, stringLength,
  stringLowercase, stringMax, stringMin, stringNormalize, stringPatternBase, stringPatternName,
  stringPatternInvertBase, stringPatternInvertName, stringToken, stringTrim, stringUppercase,
  numberBase, numberInfinity, numberGreater, numberInteger, numberLess, numberMax, numberMin,
  numberMultiple, numberNegative, numberPort, numberPositive, numberPrecision, numberUnsafe,
  dateBase, dateFormatIso, dateFormatMilliseconds, dateFormatSeconds, dateGreater, dateLess,
  dateMax, dateMin, booleanBase, arrayBase, arrayLength, arrayMax, arrayMin, arraySort,
  arraySortMismatching, arrayUnique, objectBase, objectUnknown, objectAnd, objectLength,
  objectMax, objectMin, objectMissing, objectNand, objectOxor, objectWith, objectWithout,
  objectXor]

def ofName? (name : String) : Option Issue := all.find? (·.name == name)

/-- The three formats of dates share a code. -/
def code : Issue → String
  | dateFormatIso | dateFormatMilliseconds | dateFormatSeconds => "date.format"
  | issue => issue.name

end Issue

/-- A part of a message: text, or a gap with its name. -/
inductive MessagePart
  | text (s : List Char)
  | gap (name : List Char)

def MessagePart.append (c : Char) : List MessagePart → List MessagePart
  | text s :: rest => text (c :: s) :: rest
  | parts => text [c] :: parts

/-- The parts of a template. -/
def messageParts : Nat → List Char → List MessagePart
  | 0, _ => []
  | _, [] => []
  | n + 1, c :: rest =>
    if c = '\x7b' then
      .gap (rest.takeWhile (· != '\x7d')) ::
        messageParts n ((rest.dropWhile (· != '\x7d')).drop 1)
    else MessagePart.append c (messageParts n rest)

def Issue.parts (issue : Issue) : List MessagePart :=
  messageParts issue.template.length issue.template.toList

def Issue.gaps (issue : Issue) : List String :=
  issue.parts.filterMap fun
    | .gap name => some (String.ofList name)
    | .text _ => none

/-- The text of a part, with the values of a context in the gaps. -/
def MessagePart.fill (context : Entries) : MessagePart → String
  | text s => String.ofList s
  | gap name => ((lookup? (String.ofList name) context).map Value.shown).getD ""

def Issue.message (issue : Issue) (context : Entries) : String :=
  String.join (issue.parts.map (·.fill context))

/-- The message, if the context has a value for every gap. -/
def Issue.message? (issue : Issue) (context : Entries) : Option String :=
  if issue.gaps.all (hasKey · context) then some (issue.message context) else none

end InputGuard

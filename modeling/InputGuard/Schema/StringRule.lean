import InputGuard.Format.Address
import InputGuard.Format.Base64
import InputGuard.Format.Card
import InputGuard.Format.Duration
import InputGuard.Format.Guid
import InputGuard.Pattern.Search
import InputGuard.Schema.Visit
import InputGuard.Time.Iso
import InputGuard.Unicode.Case
import InputGuard.Unicode.Normal

/-!
# Rules for texts

A rule passes a text on, refuses it, or, where it may convert, mends it.
-/

namespace InputGuard

/-- How a size is compared with a limit. -/
inductive SizeTest
  | length
  | max
  | min
  deriving DecidableEq, Repr

namespace SizeTest

def name : SizeTest → String
  | length => "length"
  | max => "max"
  | min => "min"

def holds (size limit : Nat) : SizeTest → Bool
  | length => size == limit
  | max => size ≤ limit
  | min => limit ≤ size

end SizeTest

inductive LetterCase
  | lower
  | upper
  deriving DecidableEq, Repr

namespace LetterCase

def apply (s : String) : LetterCase → String
  | lower => Unicode.lower s
  | upper => Unicode.upper s

def issue : LetterCase → Issue
  | lower => .stringLowercase
  | upper => .stringUppercase

end LetterCase

/-- A limit for the length of a text. Truth values count as one and zero and stay what they are
in messages. -/
inductive LengthLimit
  | count (n : Nat)
  | flag (b : Bool)
  deriving DecidableEq, Repr

namespace LengthLimit

def toNat : LengthLimit → Nat
  | count n => n
  | flag b => b.toNat

def value : LengthLimit → Value
  | count n => .int n
  | flag b => .bool b

end LengthLimit

inductive StringRule
  | alphanum
  | token
  | hex (byteAligned : Bool)
  | isoDuration
  | isoDate
  | letterCase (c : LetterCase)
  | trim
  | normalize (form : Unicode.NormalForm)
  | size (test : SizeTest) (limit : LengthLimit) (encoding : Value)
  | pattern (p : Pattern) (name : Value) (invert : Bool)
  | base64 (o : Format.Base64Options)
  | dataUri (padded : Bool)
  | creditCard
  | domain (o : Format.DomainOptions)
  | email (o : Format.EmailOptions)
  | hostname
  | guid (o : Format.GuidOptions)
  | ip (o : Format.AddressOptions)

namespace StringRule

def name : StringRule → String
  | alphanum => "alphanum"
  | token => "token"
  | hex _ => "hex"
  | isoDuration => "isoDuration"
  | isoDate => "isoDate"
  | letterCase _ => "case"
  | trim => "trim"
  | normalize _ => "normalize"
  | size test _ _ => test.name
  | pattern _ _ _ => "pattern"
  | base64 _ => "base64"
  | dataUri _ => "dataUri"
  | creditCard => "creditCard"
  | domain _ => "domain"
  | email _ => "email"
  | hostname => "hostname"
  | guid _ => "guid"
  | ip _ => "ip"

/-- The number of characters, or of bytes in an encoding if one is given. -/
def sizeIn (codecs : Codecs) (encoding : Value) (s : String) : Except Fault Nat :=
  if !encoding.truthy then .ok s.length
  else match encoding with
    | .str name =>
      if name.toList.contains '\x00' then .error .badValue
      else match codecs.find? name with
        | none => .error .unknownEncoding
        | some codec =>
          match codec s.toList with
          | some n => .ok n
          | none => .error .unencodable
    | _ => .error .wrongType

def sizeIssue : SizeTest → Issue
  | .length => .stringLength
  | .max => .stringMax
  | .min => .stringMin

def patternIssue (named invert : Bool) : Issue :=
  match invert, named with
  | false, false => .stringPatternBase
  | false, true => .stringPatternName
  | true, false => .stringPatternInvertBase
  | true, true => .stringPatternInvertName

/-- A date of the calendar in the form of a date with dashes; `Z` stands for a zero offset. -/
def isIsoDate (s : List Char) : Bool := isDateText s && (Moment.readIso? (spellZulu s)).isSome

/-- Refuses a text that does not have a format. -/
def require (visit : Visit) (issue : Issue) (s : String) (holds : Bool) : Checked String :=
  if holds then .ok s else visit.refuse issue (.str s) []

/-- Passes a text in its mended form on, or refuses it if it may not be mended. -/
def mend (visit : Visit) (issue : Issue) (s mended : String) (particulars : Entries) :
    Checked String :=
  if visit.prefs.convert then .ok mended
  else if s = mended then .ok s
  else visit.refuse issue (.str s) particulars

def checkHex (visit : Visit) (byteAligned : Bool) (s : String) : Checked String :=
  if !Format.isHex s.toList then visit.refuse .stringHex (.str s) []
  else if byteAligned && s.length % 2 = 1 then
    if visit.prefs.convert then .ok ("0" ++ s) else visit.refuse .stringHexAlign (.str s) []
  else .ok s

def checkSize (visit : Visit) (test : SizeTest) (limit : LengthLimit) (encoding : Value)
    (s : String) : Checked String := do
  let n ← orFault (sizeIn visit.env.codecs encoding s)
  if test.holds n limit.toNat then return s
  if s.isEmpty then visit.refuse .stringEmpty (.str s) []
  visit.refuse (sizeIssue test) (.str s) [("limit", limit.value), ("encoding", encoding)]

def checkPattern (visit : Visit) (p : Pattern) (name : Value) (invert : Bool) (s : String) :
    Checked String :=
  if p.search s = invert then
    visit.refuse (patternIssue name.truthy invert) (.str s)
      [("name", name), ("regex", .str p.source)]
  else .ok s

def checkEmail (visit : Visit) (o : Format.EmailOptions) (s : String) : Checked String := do
  let invalid ← orFault (Format.invalidAddresses o s.toList)
  if invalid.isEmpty then return s
  visit.refuse .stringEmail (.str s) [("invalids", .strings (invalid.map String.ofList))]

def checkIp (visit : Visit) (o : Format.AddressOptions) (s : String) : Checked String := do
  if ← orFault (Format.isAddress o s.toList) then return s
  let cidr := ("cidr", Value.str o.cidr.name)
  if o.requested.isEmpty then visit.refuse .stringIp (.str s) [cidr]
  visit.refuse .stringIpVersion (.str s) [cidr, ("version", .strings (o.requested.map (·.name)))]

def check (visit : Visit) (s : String) : StringRule → Checked String
  | alphanum => require visit .stringAlphanum s (Format.isAlphanumeric s.toList)
  | token => require visit .stringToken s (Format.isToken s.toList)
  | hex byteAligned => checkHex visit byteAligned s
  | isoDuration => require visit .stringIsoDuration s (Format.isDuration s.toList)
  | isoDate => require visit .stringIsoDate s (isIsoDate s.toList)
  | letterCase c => mend visit c.issue s (c.apply s) []
  | trim => mend visit .stringTrim s (String.ofList (Unicode.trim s.toList)) []
  | normalize form =>
    mend visit .stringNormalize s (Unicode.normalize form s) [("form", .str form.name)]
  | size test limit encoding => checkSize visit test limit encoding s
  | pattern p name invert => checkPattern visit p name invert s
  | base64 o => require visit .stringBase64 s (Format.isBase64 o s.toList)
  | dataUri padded => require visit .stringDataUri s (Format.isDataUri padded s.toList)
  | creditCard => do
    require visit .stringCreditCard s (← orFault (Format.isCardNumber s.toList))
  | domain o => do require visit .stringDomain s (← orFault (Format.isDomain o s.toList))
  | email o => checkEmail visit o s
  | hostname => require visit .stringHostname s (Format.isHostname s.toList)
  | guid o => require visit .stringGuid s (Format.isGuid o s.toList)
  | ip o => checkIp visit o s

end StringRule

end InputGuard

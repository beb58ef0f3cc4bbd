import InputGuard.Fault
import InputGuard.Format.Basic
import InputGuard.Number.Basic
import InputGuard.Unicode.Blank
import InputGuard.Unicode.Word

/-!
# Domain names and mail addresses
-/

namespace InputGuard.Format

/-- A number that a number of labels is compared with, or something that no number is compared
with. -/
inductive LabelBound
  | number (x : Number)
  | incomparable
  deriving DecidableEq

structure DomainOptions where
  allowUnicode : Bool
  least : LabelBound
  most : Option LabelBound
  deriving DecidableEq

def LabelBound.exceeds (count : Nat) : LabelBound → Except Fault Bool
  | number x => .ok ((Number.int count).lt x)
  | incomparable => .error .wrongType

def LabelBound.isExceededBy (count : Nat) : LabelBound → Except Fault Bool
  | number x => .ok (x.lt (.int count))
  | incomparable => .error .wrongType

def isLabelEnd (allowUnicode : Bool) (c : Char) : Bool :=
  if allowUnicode then Unicode.isWord c else c.isAlphanum

/-- One to 63 letters, digits and hyphens, without a hyphen at either end, and perhaps a line
feed. -/
def isLabel (allowUnicode : Bool) (s : List Char) : Bool :=
  let t := dropFinalLineFeed s
  !t.isEmpty && t.length ≤ 63 && (t.head?.map (isLabelEnd allowUnicode)).getD false &&
    (t.getLast?.map (isLabelEnd allowUnicode)).getD false &&
    t.all fun c => isLabelEnd allowUnicode c || c = '-'

/-- The last label: letters, or an encoded name. -/
def isTopLabel (s : List Char) : Bool :=
  let t := dropFinalLineFeed s
  (2 ≤ t.length && t.length ≤ 63 && t.all Char.isAlpha) ||
    (['x', 'n', '-', '-'].isPrefixOf t && 5 ≤ t.length && t.length ≤ 63 &&
      (t.drop 4).all fun c => c.isAlphanum || c = '-')

def labels (s : List Char) : List (List Char) := splitOnChar '.' (dropTrailing '.' s)

def isDomain (o : DomainOptions) (s : List Char) : Except Fault Bool := do
  if s.isEmpty || 253 < s.length then return false
  let parts := labels s
  if ← o.least.exceeds parts.length then return false
  if let some most := o.most then
    if ← most.isExceededBy parts.length then return false
  return parts.all (isLabel o.allowUnicode) && (parts.getLast?.map isTopLabel).getD false

structure EmailOptions where
  domain : DomainOptions
  ignoreLength : Bool
  /-- Whether the text is a list of addresses. -/
  multiple : Bool
  /-- What stands between the addresses of a list, if it is a text. -/
  separator : Option String
  deriving DecidableEq

def isAtomChar (c : Char) : Bool :=
  c.isAlphanum || "!#$%&'*+/=?^_\x60\x7b|\x7d~-".toList.contains c

/-- Runs of the permitted characters between dots, and perhaps a line feed. -/
def isLocalPart (s : List Char) : Bool :=
  (splitOnChar '.' (dropFinalLineFeed s)).all fun atom => !atom.isEmpty && atom.all isAtomChar

/-- The parts before and after the last `@`. -/
def splitAddress? (s : List Char) : Option (List Char × List Char) :=
  match partitionOnChar '@' s.reverse with
  | (domain, some localPart) => some (localPart.reverse, domain.reverse)
  | _ => none

def isEmail (o : EmailOptions) (s : List Char) : Except Fault Bool :=
  if !o.ignoreLength && 254 < s.length then .ok false
  else match splitAddress? s with
    | none => .ok false
    | some (localPart, domain) =>
      if localPart.isEmpty || 64 < localPart.length || !isLocalPart localPart then .ok false
      else isDomain o.domain domain

/-- The addresses of a text, without blanks around them. -/
def addresses (o : EmailOptions) (s : List Char) : Except Fault (List (List Char)) :=
  if o.multiple then
    match o.separator with
    | some sep => .ok ((splitOnText sep.toList 0 s).map Unicode.trim)
    | none => .error .wrongType
  else .ok [Unicode.trim s]

/-- The addresses of a text that are none. -/
def invalidAddresses (o : EmailOptions) (s : List Char) : Except Fault (List (List Char)) := do
  (← addresses o s).filterM fun a => return !(← isEmail o a)

end InputGuard.Format

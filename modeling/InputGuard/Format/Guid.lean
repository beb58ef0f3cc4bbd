import InputGuard.Format.Basic

/-!
# GUIDs
-/

namespace InputGuard.Format

inductive GuidSeparator
  | absent
  /-- A dash or a colon, the same one throughout. -/
  | dashOrColon
  | text (s : String)
  deriving DecidableEq, Repr

structure GuidOptions where
  /-- The permitted version digits; any, if there are none. -/
  versions : List Char
  separator : GuidSeparator
  deriving DecidableEq, Repr

/-- The text without a pair of braces around it. -/
def dropBraces (s : List Char) : List Char :=
  if s.head? = some '\x7b' && s.getLast? = some '\x7d' then (s.drop 1).dropLast else s

/-- The text that a list starts with, as far as it separates the groups of a GUID. -/
def GuidSeparator.read? (sep : GuidSeparator) (s : List Char) : Option (List Char) :=
  match sep with
  | absent => some []
  | dashOrColon =>
    match s with
    | c :: _ => if c = '-' || c = ':' then some [c] else none
    | [] => none
  | text t => if t.toList.isPrefixOf s then some t.toList else none

/-- Groups of hexadecimal digits of the given sizes, with a separator before each of them. -/
def hexGroups (sep : List Char) : List Nat → List Char → Bool
  | [], s => s.isEmpty
  | n :: sizes, s =>
    sep.isPrefixOf s &&
      let t := s.drop sep.length
      (t.take n).length == n && (t.take n).all isHexDigit && hexGroups sep sizes (t.drop n)

/-- Eight, four, four, four and twelve hexadecimal digits, and perhaps a line feed. -/
def isGuidBody (sep : GuidSeparator) (s : List Char) : Bool :=
  let t := dropFinalLineFeed s
  (t.take 8).length == 8 && (t.take 8).all isHexDigit &&
    match sep.read? (t.drop 8) with
    | some mark => hexGroups mark [4, 4, 4, 12] (t.drop 8)
    | none => false

/-- The version is the thirteenth hexadecimal digit of the text. -/
def hasVersion (versions : List Char) (s : List Char) : Bool :=
  versions.isEmpty || (((s.filter isHexDigit)[12]?).map versions.contains).getD false

def isGuid (o : GuidOptions) (s : List Char) : Bool :=
  let body := dropBraces s
  isGuidBody o.separator body && hasVersion o.versions body

end InputGuard.Format

import InputGuard.Unicode.CaseTable
import InputGuard.Unicode.Ranges

/-!
# Upper and lower case

`lower` and `upper` map whole texts. They map character by character but for two things: some
letters have a case of several characters, and a capital sigma that ends a word has a lower case
of its own.
-/

namespace InputGuard.Unicode

def CaseRun.map? (r : CaseRun) (c : Nat) : Option Nat :=
  if r.first ≤ c && c ≤ r.last && (c - r.first) % r.step == 0 then
    some (c + r.offset).toNat
  else none

def mapCase (runs : List CaseRun) (c : Char) : Char :=
  ((runs.findSome? (·.map? c.toNat)).map Char.ofNat).getD c

/-- The lower case of one letter as one letter. -/
def lowerChar (c : Char) : Char :=
  if c.toNat < 128 then c.toLower else mapCase lowerRuns c

def upperChar (c : Char) : List Char :=
  if c.toNat < 128 then [c.toUpper]
  else match upperExpansions.find? (·.1 == c.toNat) with
    | some (_, cs) => cs.map Char.ofNat
    | none => [mapCase upperRuns c]

/-- Letters that some change of case changes. -/
def hasCase (c : Char) : Bool := lowerChar c != c || upperChar c != [c]

def isCased (c : Char) : Bool := inRanges casedRanges c

def isCaseIgnorable (c : Char) : Bool := inRanges caseIgnorableRanges c

def capitalSigma : Char := 'Σ'

/-- A capital sigma ends a word if a cased letter comes before it and none comes after it, marks
and signs in between not counted. -/
def lowerSigma (afterCased : Bool) (rest : List Char) : Char :=
  let beforeCased := ((rest.dropWhile isCaseIgnorable).head?.map isCased).getD false
  if afterCased && !beforeCased then 'ς' else 'σ'

/-- The lower case of the characters after a place where `afterCased` holds. -/
def lowerAfter (afterCased : Bool) : List Char → List Char
  | [] => []
  | c :: rest =>
    let here :=
      if c = capitalSigma then [lowerSigma afterCased rest]
      else if c.toNat = 0x130 then ['i', Char.ofNat 0x307]
      else [lowerChar c]
    here ++ lowerAfter (if isCaseIgnorable c then afterCased else isCased c) rest

def lower (s : String) : String := String.ofList (lowerAfter false s.toList)

def upper (s : String) : String := String.ofList (s.toList.flatMap upperChar)

end InputGuard.Unicode

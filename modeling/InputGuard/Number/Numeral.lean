import InputGuard.Number.Shortest
import InputGuard.Text.Integer

/-!
# Reading decimal numerals

Two kinds of decimal numerals are read. `Binary64.read?` takes the nearest binary number at once.
`readDecimal?` keeps the digits, knows a second kind of undefined number, and takes underscores
anywhere.
-/

namespace InputGuard

open Unicode

/-- An exponent, from its mark on. -/
def readExponent? : List Char → Option Int
  | [] => some 0
  | mark :: rest =>
    if mark = 'e' || mark = 'E' then
      let (negative, digits) := splitSign rest
      if digits.isEmpty || !digits.all Char.isDigit then none
      else
        let n : Int := digitsValue digits
        some (if negative then -n else n)
    else none

/-- Digits with or without a point and an exponent. -/
def unsignedDecimal? (cs : List Char) : Option Decimal := do
  let whole := cs.takeWhile Char.isDigit
  let afterWhole := cs.dropWhile Char.isDigit
  let afterPoint := if afterWhole.head? = some '.' then some afterWhole.tail else none
  let fraction := (afterPoint.map (·.takeWhile Char.isDigit)).getD []
  let rest := (afterPoint.map (·.dropWhile Char.isDigit)).getD afterWhole
  if whole.isEmpty && fraction.isEmpty then none
  else
    let exponent ← readExponent? rest
    return ⟨digitsValue (whole ++ fraction), exponent - fraction.length⟩

/-- Whether a text is a word, capitals or not. -/
def isWordText (word : String) (cs : List Char) : Bool := cs.map Char.toLower == word.toList

def isInfinityText (cs : List Char) : Bool := isWordText "inf" cs || isWordText "infinity" cs

/-- Underscores stand between two digits each. -/
def underscoresFit : List Char → Bool
  | [] => true
  | c :: rest =>
    (match rest with
      | '_' :: d :: _ => c.isDigit && d.isDigit
      | ['_'] => false
      | _ => true) && underscoresFit rest

/-- The binary number nearest to the one that a numeral denotes. -/
def Binary64.read? (s : String) : Option Binary64 := do
  let cs ← plainNumeral? s
  let (negative, cs) := splitSign cs
  if isInfinityText cs then some (.infinite negative)
  else if isWordText "nan" cs then some .nan
  else if cs.head? = some '_' || !underscoresFit cs then none
  else
    let d ← unsignedDecimal? (cs.filter (· != '_'))
    return Binary64.ofDecimal negative d.coefficient d.exponent

/-- What a decimal numeral denotes. -/
inductive DecimalNumeral
  | number (negative : Bool) (d : Decimal)
  | infinity (negative : Bool)
  | undefined
  /-- Undefined, and not to be computed with. -/
  | signaling
  deriving DecidableEq, Repr

/-- The exponents of decimal numbers: of the first digit at most, of the last one at least. -/
def greatestExponent : Int := 999999999999999999
def leastExponent : Int := -1999999999999999997

def decimalInRange (d : Decimal) : Bool :=
  let top := if d.coefficient = 0 then d.exponent else d.exponent + digitCount d.coefficient - 1
  leastExponent ≤ d.exponent && top ≤ greatestExponent

/-- The basic Latin form of a character of a decimal numeral; a blank inside one is no part of
it. -/
def plainDecimalChar? (c : Char) : Option Char :=
  if c.toNat = 0 then none
  else if c.toNat < 128 then some c
  else (decimalValue? c).map fun n => Char.ofNat (48 + n)

def readDecimal? (s : String) : Option DecimalNumeral := do
  let inner := (trim s.toList).filter (· != '_')
  let (negative, cs) := splitSign (← inner.mapM plainDecimalChar?)
  if isInfinityText cs then some (.infinity negative)
  else if isWordText "nan" (cs.take 3) && (cs.drop 3).all Char.isDigit then some .undefined
  else if isWordText "snan" (cs.take 4) && (cs.drop 4).all Char.isDigit then some .signaling
  else
    let d ← unsignedDecimal? cs
    if decimalInRange d then some (.number negative d) else none

end InputGuard

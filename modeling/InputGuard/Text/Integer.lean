import InputGuard.Text.Basic
import InputGuard.Unicode.Blank
import InputGuard.Unicode.Digit

/-!
# Reading numerals

Numerals may be written with the decimal digits of any script, with blanks around them and with
single underscores between digits.
-/

namespace InputGuard

open Unicode

/-- Numerals with more digits are not read. -/
def integerDigitLimit : Nat := 4300

/-- The basic Latin form of a character of a numeral. -/
def plainNumeralChar? (c : Char) : Option Char :=
  if c.toNat < 128 then some c
  else if isBlank c then some ' '
  else (decimalValue? c).map fun n => Char.ofNat (48 + n)

/-- Blanks around a numeral, in its basic Latin form. -/
def isNumeralBlank (c : Char) : Bool := c = ' ' || (9 ≤ c.toNat && c.toNat ≤ 13)

/-- A numeral in its basic Latin form, without the blanks around it. -/
def plainNumeral? (s : String) : Option (List Char) :=
  (s.toList.mapM plainNumeralChar?).map (trimWhere isNumeralBlank)

/-- A sign, if there is one, and the rest; the sign is true for a minus. -/
def splitSign : List Char → Bool × List Char
  | '-' :: rest => (true, rest)
  | '+' :: rest => (false, rest)
  | cs => (false, cs)

def digitsValue (digits : List Char) : Nat :=
  digits.foldl (fun n c => 10 * n + (c.toNat - 48)) 0

/-- The digits of a numeral whose groups are joined by single underscores. -/
def joinedDigits? (cs : List Char) : Option (List Char) :=
  let groups := splitOnChar '_' cs
  if groups.all fun g => !g.isEmpty && g.all Char.isDigit then some groups.flatten else none

/-- The integer that a numeral denotes. -/
def readInteger? (s : String) : Option Int := do
  let (negative, cs) := splitSign (← plainNumeral? s)
  let digits ← joinedDigits? cs
  if digits.length > integerDigitLimit then none
  else
    let n : Int := digitsValue digits
    return if negative then -n else n

end InputGuard

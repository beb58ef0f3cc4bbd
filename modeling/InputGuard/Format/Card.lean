import InputGuard.Fault
import InputGuard.Unicode.Digit

/-!
# Card numbers

The check digit of Luhn: with every second digit from the right doubled, and nine taken off where
that is more than nine, the sum is a multiple of ten.
-/

namespace InputGuard.Format

open Unicode

def doubled (n : Nat) : Nat := if 9 < 2 * n then 2 * n - 9 else 2 * n

/-- The sum of digits, the last one first; every second one is doubled, starting with this one if
`double` holds. -/
def luhnSum : Bool → List Nat → Nat
  | _, [] => 0
  | double, n :: rest => (if double then doubled n else n) + luhnSum (!double) rest

def passesLuhn (digits : List Nat) : Bool :=
  let total := luhnSum false digits.reverse
  0 < total && total % 10 == 0

/-- Digits that pass the check. A digit that no decimal numeral is written with has no value. -/
def isCardNumber (s : List Char) : Except Fault Bool :=
  if s.isEmpty || !s.all isDigit then .ok false
  else match s.mapM decimalValue? with
    | some digits => .ok (passesLuhn digits)
    | none => .error .badValue

end InputGuard.Format

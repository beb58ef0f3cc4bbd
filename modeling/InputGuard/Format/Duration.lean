import InputGuard.Format.Basic
import InputGuard.Unicode.Digit

/-!
# Durations of ISO 8601
-/

namespace InputGuard.Format

open Unicode

/-- The text after an amount in the given unit, if it starts with one. -/
def dropAmount (unit : Char) (s : List Char) : List Char :=
  match s.dropWhile isDecimal with
  | c :: rest => if c = unit && (s.head?.map isDecimal).getD false then rest else s
  | [] => s

/-- The text after amounts in the given units, in their order. -/
def dropAmounts (units : List Char) (s : List Char) : List Char :=
  units.foldl (fun s unit => dropAmount unit s) s

/-- A `P`, amounts of years, months, weeks and days, and after a `T` amounts of hours, minutes and
seconds, at least one of them if there is a `T`, and something after the `P`. -/
def isDuration (s : List Char) : Bool :=
  match dropFinalLineFeed s with
  | 'P' :: body =>
    !body.isEmpty &&
      match dropAmounts ['Y', 'M', 'W', 'D'] body with
      | [] => true
      | 'T' :: time =>
        (time.head?.map isDecimal).getD false && (dropAmounts ['H', 'M', 'S'] time).isEmpty
      | _ => false
  | _ => false

end InputGuard.Format

/-!
# Faults

A fault stops a computation that a value or an argument is not fit for. It is no verdict on the
value: nothing catches it.
-/

namespace InputGuard

inductive Fault
  /-- An operation met a value of a kind that it cannot work on. -/
  | wrongType
  /-- A value was asked for a member that its kind does not have. -/
  | missingMember
  | missingKey
  /-- A value of the right kind was not among those that an operation can work on. -/
  | badValue
  /-- A number or a date was out of range. -/
  | overflow
  | unknownEncoding
  /-- A text cannot be written in an encoding. -/
  | unencodable
  | badPattern
  deriving DecidableEq, Repr

end InputGuard

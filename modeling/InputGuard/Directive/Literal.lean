import InputGuard.Fault
import InputGuard.Text.Integer
import InputGuard.Value.Basic

/-!
# Literals

The arguments of a directive are written as literals.
-/

namespace InputGuard

inductive Literal
  | int (text : String)
  | float (text : String)
  | string (s : String)
  | boolean (b : Bool)
  | enum (name : String)
  | null
  | list (items : List Literal)
  | object (fields : List (String × Literal))
  | var (name : String)

namespace Literal

mutual

/-- The value that a literal denotes. Symbols denote their names, and variables nothing. -/
def value : Literal → Except Fault Value
  | int text =>
    match readInteger? text with
    | some n => .ok (.int n)
    | none => .error .badValue
  | float text =>
    match Binary64.read? text with
    | some x => .ok (.float x)
    | none => .error .badValue
  | string s => .ok (.str s)
  | boolean b => .ok (.bool b)
  | enum name => .ok (.str name)
  | null => .ok .null
  | list items => do return .list (← values items)
  | object fields => do return .ofEntries (← entries fields)
  | var _ => .ok .null

def values : List Literal → Except Fault (List Value)
  | [] => .ok []
  | item :: rest => do
    let v ← value item
    return v :: (← values rest)

def entries : List (String × Literal) → Except Fault Entries
  | [] => .ok []
  | (name, item) :: rest => do
    let v ← value item
    return (name, v) :: (← entries rest)

end

end Literal

end InputGuard

import InputGuard.Fault
import InputGuard.Value.Basic

/-!
# Values as options

Options are entries by name. What switches nothing on counts as no options at all.
-/

namespace InputGuard.Value

/-- The items of a list, the characters of a text or the keys of an object. -/
def parts : Value → Except Fault (List Value)
  | str s => .ok (s.toList.map fun c => str (String.ofList [c]))
  | list items => .ok items
  | object entries => .ok (entries.map fun e => str e.1)
  | _ => .error .wrongType

/-- The parts of a value that is given, or none. -/
def optionalParts (v : Value) : Except Fault (List Value) := if v.truthy then v.parts else .ok []

/-- Whether a value can be looked up in a table. -/
def canBeKey : Value → Bool
  | list _ | object _ => false
  | _ => true

/-- The entries of options. -/
def options : Value → Except Fault Entries
  | object entries => .ok entries
  | v => if v.truthy then .error .missingMember else .ok []

/-- A key and a value, from two parts. -/
def pair (v : Value) : Except Fault (Value × Value) := do
  match ← v.parts with
  | [k, w] => if k.canBeKey then return (k, w) else throw .wrongType
  | _ => throw .badValue

/-- The entries of options that may also be given as a list of pairs. Keys that are no texts are
never looked up. -/
def entryList (v : Value) : Except Fault Entries :=
  match v with
  | object entries => .ok entries
  | v => do
    let pairs ← (← v.optionalParts).mapM pair
    return insertKeys [] (pairs.filterMap fun
      | (str key, w) => some (key, w)
      | _ => none)

/-- The option of a name; null if it is not given. -/
def option (name : String) (entries : Entries) : Value := (lookup? name entries).getD null

end InputGuard.Value

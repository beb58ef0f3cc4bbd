import InputGuard.Schema.StringRule
import InputGuard.Value.Sorting

/-!
# Rules for arrays
-/

namespace InputGuard

/-- Which part of an item is looked at. -/
inductive KeyPath
  | whole
  /-- Keys and positions joined by dots. -/
  | path (text : String)
  | unusable
  deriving DecidableEq, Repr

namespace KeyPath

def ofValue (v : Value) : KeyPath :=
  if !v.truthy then whole
  else match v with
    | .str text => path text
    | _ => unusable

/-- The item at a position, counted from the end if it is negative. -/
def item? (items : List Value) (i : Int) : Option Value :=
  let n := if i < 0 then i + items.length else i
  if n < 0 then none else items[n.toNat]?

def follow? : List String → Value → Option Value
  | [], v => some v
  | part :: rest, .object entries => (lookup? part entries).bind (follow? rest)
  | part :: rest, .list items => ((readInteger? part).bind (item? items)).bind (follow? rest)
  | _ :: _, _ => none

/-- The part of an item that a path leads to, if it has one. -/
def reach (p : KeyPath) (v : Value) : Except Fault (Option Value) :=
  match p with
  | whole => .ok (some v)
  | path text => .ok (follow? ((splitOnChar '.' text.toList).map String.ofList) v)
  | unusable => .error .missingMember

end KeyPath

inductive SortOrder
  | ascending
  | descending
  deriving DecidableEq, Repr

namespace SortOrder

def name : SortOrder → String
  | ascending => "ascending"
  | descending => "descending"

def ofName? (name : String) : Option SortOrder := [ascending, descending].find? (·.name == name)

def sort? {α : Type} (before? : α → α → Option Bool) (xs : List α) :
    SortOrder → Option (List α)
  | ascending => InputGuard.sort? before? xs
  | descending => InputGuard.sortDescending? before? xs

end SortOrder

inductive ArrayRule
  | size (test : SizeTest) (limit : Nat)
  | sort (order : SortOrder) (by_ : KeyPath)
  | unique (by_ : KeyPath)
  deriving DecidableEq, Repr

namespace ArrayRule

def name : ArrayRule → String
  | size test _ => test.name
  | sort _ _ => "sort"
  | unique _ => "unique"

def sizeIssue : SizeTest → Issue
  | .length => .arrayLength
  | .max => .arrayMax
  | .min => .arrayMin

/-- An item with its key for sorting and its position. -/
structure Keyed where
  key : Value
  item : Value
  position : Nat

/-- The items with their keys, if all of them have one. -/
def keyed? : List Value → List (Option Value) → Nat → Option (List Keyed)
  | item :: items, key :: keys, i => do return ⟨← key, item, i⟩ :: (← keyed? items keys (i + 1))
  | _, _, _ => some []

/-- Whether items that were put in order stand where they stood, or equal ones do. -/
def unmoved : List Keyed → List Value → Nat → Bool
  | k :: sorted, item :: items, i =>
    (k.position == i || k.item.same item) && unmoved sorted items (i + 1)
  | _, _, _ => true

def pathText : KeyPath → String
  | .path text => text
  | _ => "value"

def checkSort (visit : Visit) (order : SortOrder) (by_ : KeyPath) (items : List Value) :
    Checked (List Value) := do
  let keys ← orFault (items.mapM by_.reach)
  match (keyed? items keys 0).bind fun ks => order.sort? (fun a b => a.key.before? b.key) ks with
  | none => visit.refuse .arraySortMismatching (.list items) []
  | some sorted =>
    if visit.prefs.convert then return sorted.map (·.item)
    else if unmoved sorted items 0 then return items
    else
      visit.refuse .arraySort (.list items)
        [("order", .str order.name), ("by", .str (pathText by_))]

def sameKey : Option Value → Option Value → Bool
  | some a, some b => a.same b
  | none, none => true
  | _, _ => false

/-- The first position whose key occurs before, and the first position where it does. -/
def firstDuplicate? : List (Option Value) → List (Option Value) → Option (Nat × Nat)
  | _, [] => none
  | seen, key :: rest =>
    match seen.findIdx? (sameKey · key) with
    | some i => some (seen.length, i)
    | none => firstDuplicate? (seen ++ [key]) rest

def checkUnique (visit : Visit) (by_ : KeyPath) (items : List Value) : Checked (List Value) := do
  let keys ← orFault (items.mapM by_.reach)
  match firstDuplicate? [] keys with
  | none => return items
  | some (i, j) =>
    let path := match by_ with
      | .path text => [("path", Value.str text)]
      | _ => []
    (visit.down (.index i)).refuse .arrayUnique ((items[i]?).getD .null)
      ([("pos", .int i), ("dupe_pos", .int j), ("dupe_value", (items[j]?).getD .null)] ++ path)

def check (visit : Visit) (items : List Value) : ArrayRule → Checked (List Value)
  | size test limit =>
    if test.holds items.length limit then .ok items
    else visit.refuse (sizeIssue test) (.list items) [("limit", .int limit)]
  | sort order by_ => checkSort visit order by_ items
  | unique by_ => checkUnique visit by_ items

end ArrayRule

end InputGuard

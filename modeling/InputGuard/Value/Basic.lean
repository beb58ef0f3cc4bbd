import InputGuard.Number.Basic
import InputGuard.Pattern.Syntax
import InputGuard.Time.Moment

/-!
# Values

The values that directives hold and that are checked: nothing, truth values, numbers, texts,
lists, objects with their entries in order, dates, and patterns.
-/

namespace InputGuard

inductive Value
  | null
  | bool (b : Bool)
  | number (x : Number)
  | str (s : String)
  | list (items : List Value)
  | object (entries : List (String × Value))
  | moment (m : Moment)
  | day (d : Day)
  | pattern (p : Pattern)

/-- The entries of an object, in order and with one entry for each key. -/
abbrev Entries := List (String × Value)

namespace Value

def int (n : Int) : Value := number (.int n)

def float (x : Binary64) : Value := number (.float x)

def strings (names : List String) : Value := list (names.map str)

def isNull : Value → Bool
  | null => true
  | _ => false

/-- Whether a value switches an option on. What is empty, zero or nothing does not. -/
def truthy : Value → Bool
  | null => false
  | bool b => b
  | number x => !x.isZero
  | str s => !s.isEmpty
  | list items => !items.isEmpty
  | object entries => !entries.isEmpty
  | moment _ => true
  | day _ => true
  | pattern _ => true

/-- The number that a value counts as; truth values count as one and zero. -/
def number? : Value → Option Number
  | bool b => some (.int b.toInt)
  | number x => some x
  | _ => none

end Value

/-- The value under a key. -/
def lookup? {α : Type} (key : String) : List (String × α) → Option α
  | [] => none
  | (k, v) :: rest => if k = key then some v else lookup? key rest

/-- The list with a value under a key, in the place that the key has or else at the end. -/
def insertKey {α : Type} (key : String) (v : α) : List (String × α) → List (String × α)
  | [] => [(key, v)]
  | (k, w) :: rest => if k = key then (key, v) :: rest else (k, w) :: insertKey key v rest

/-- Insertion of several entries in turn. -/
def insertKeys {α : Type} (entries new : List (String × α)) : List (String × α) :=
  new.foldl (fun es (k, v) => insertKey k v es) entries

def hasKey {α : Type} (key : String) (entries : List (String × α)) : Bool :=
  (lookup? key entries).isSome

namespace Value

/-- The object with the given entries; the last value of a repeated key counts. -/
def ofEntries (entries : List (String × Value)) : Value := object (insertKeys [] entries)

end Value

end InputGuard

import InputGuard.Value.Order

/-!
# Sorting under a partial order

Some values cannot be compared, and some numbers come neither before nor after others. `sort?`
puts the run that a list starts with in order and inserts the other elements one by one, each by
halving the part that it may belong to. It gives no list if two elements that it compares cannot
be compared. Equal elements keep their order.
-/

namespace InputGuard

variable {α : Type}

/-- The elements that go on with a run, each before the last one if `down` holds and else not, and
the elements after them. -/
def runFrom? (before? : α → α → Option Bool) (down : Bool) (last : α) :
    List α → Option (List α × List α)
  | [] => some ([], [])
  | x :: rest => do
    if (← before? x last) = down then
      let (more, after) ← runFrom? before? down x rest
      return (x :: more, after)
    else return ([], x :: rest)

/-- The run that a list starts with, in ascending order, and the elements after it. -/
def firstRun? (before? : α → α → Option Bool) : List α → Option (List α × List α)
  | a :: b :: rest => do
    let down ← before? b a
    let (more, after) ← runFrom? before? down b rest
    let run := a :: b :: more
    return (if down then run.reverse else run, after)
  | short => some (short, [])

/-- The place of `x` among sorted elements, known to be from `lo` up to `hi`: before the first
element that `x` comes before. -/
def placeOf? (before? : α → α → Option Bool) (x : α) (sorted : List α) :
    Nat → Nat → Nat → Option Nat
  | 0, lo, _ => some lo
  | fuel + 1, lo, hi =>
    if lo < hi then
      let mid := lo + (hi - lo) / 2
      match sorted[mid]? with
      | none => some lo
      | some y => do
        if ← before? x y then placeOf? before? x sorted fuel lo mid
        else placeOf? before? x sorted fuel (mid + 1) hi
    else some lo

def insert? (before? : α → α → Option Bool) (sorted : List α) (x : α) : Option (List α) := do
  let n ← placeOf? before? x sorted sorted.length 0 sorted.length
  return sorted.take n ++ x :: sorted.drop n

def sort? (before? : α → α → Option Bool) (xs : List α) : Option (List α) := do
  let (run, rest) ← firstRun? before? xs
  rest.foldlM (insert? before?) run

/-- The descending order, in which equal elements keep their order too. -/
def sortDescending? (before? : α → α → Option Bool) (xs : List α) : Option (List α) :=
  (sort? before? xs.reverse).map List.reverse

end InputGuard

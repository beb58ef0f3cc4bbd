import InputGuard.Value.Basic

/-!
# Equality and order of values

Numbers and truth values are equal if they are the same number. Objects are equal if they have
the same keys with equal values, in whatever order. Numbers, texts, lists and dates are ordered
among themselves.
-/

namespace InputGuard.Value

mutual

def same : Value → Value → Bool
  | null, null => true
  | bool a, bool b => a == b
  | bool a, number y => (Number.int a.toInt).same y
  | number x, bool b => x.same (.int b.toInt)
  | number x, number y => x.same y
  | str a, str b => a == b
  | list as, list bs => sameItems as bs
  | object as, object bs => as.length == bs.length && sameEntries as bs
  | moment a, moment b => a.same b
  | day a, day b => a == b
  | pattern p, pattern q => p.source == q.source && p.flags == q.flags
  | _, _ => false

def sameItems : List Value → List Value → Bool
  | [], [] => true
  | a :: as, b :: bs => same a b && sameItems as bs
  | _, _ => false

/-- Whether every entry is among the others with an equal value. -/
def sameEntries : List (String × Value) → List (String × Value) → Bool
  | [], _ => true
  | (k, a) :: as, bs =>
    (match lookup? k bs with
      | some b => same a b
      | none => false) && sameEntries as bs

end

/-- Whether a value is equal to one of several. -/
def isAmong (v : Value) (vs : List Value) : Bool := vs.any fun w => v.same w

mutual

/-- Whether one value comes before another, if they are ordered. Lists are ordered by the first
items that differ. -/
def before? : Value → Value → Option Bool
  | bool a, bool b => some (a.toNat < b.toNat)
  | bool a, number y => some ((Number.int a.toInt).lt y)
  | number x, bool b => some (x.lt (.int b.toInt))
  | number x, number y => some (x.lt y)
  | str a, str b => some (a < b)
  | moment a, moment b => a.before? b
  | day a, day b => some (a.number < b.number)
  | list as, list bs => beforeItems? as bs
  | _, _ => none

def beforeItems? : List Value → List Value → Option Bool
  | [], [] => some false
  | [], _ :: _ => some true
  | _ :: _, [] => some false
  | a :: as, b :: bs => if same a b then beforeItems? as bs else before? a b

end

end InputGuard.Value

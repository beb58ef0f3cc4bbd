/-!
# Similar texts

The similarity of two texts is the share of their characters that stand in matching blocks: the
longest common block, and the blocks that match on its left and on its right.
-/

namespace InputGuard

/-- A block that two lists have in common: where it starts in either, and its length. -/
structure Block where
  first : Nat
  second : Nat
  length : Nat
  deriving DecidableEq, Repr

/-- The length of the common start of two lists, of elements that `p` holds of. -/
def commonStart (p : Char → Bool) : List Char → List Char → Nat
  | a :: as, b :: bs => if a = b && p a then commonStart p as bs + 1 else 0
  | _, _ => 0

/-- The better of two blocks: the longer one, or the first. -/
def Block.better (a b : Block) : Block := if a.length < b.length then b else a

/-- The best block that starts where the first list does. -/
def bestAt (p : Char → Bool) (i : Nat) (as : List Char) : Nat → Block → List Char → Block
  | _, best, [] => best
  | j, best, b :: bs =>
    bestAt p i as (j + 1) (best.better ⟨i, j, commonStart p as (b :: bs)⟩) bs

/-- The best block of elements that `p` holds of, the first of several equally long ones. -/
def bestBlock (p : Char → Bool) (bs : List Char) : Nat → Block → List Char → Block
  | _, best, [] => best
  | i, best, a :: as => bestBlock p bs (i + 1) (bestAt p i (a :: as) 0 best bs) as

/-- The best block, made longer by the common elements on both sides of it. -/
def longestBlock (p : Char → Bool) (as bs : List Char) : Block :=
  let block := bestBlock p bs 0 ⟨0, 0, 0⟩ as
  let all : Char → Bool := fun _ => true
  let before := commonStart all (as.take block.first).reverse (bs.take block.second).reverse
  let after :=
    commonStart all (as.drop (block.first + block.length)) (bs.drop (block.second + block.length))
  ⟨block.first - before, block.second - before, before + block.length + after⟩

/-- The number of elements in matching blocks. -/
def matchedCount (p : Char → Bool) : Nat → List Char → List Char → Nat
  | 0, _, _ => 0
  | fuel + 1, as, bs =>
    let block := longestBlock p as bs
    if block.length = 0 then 0
    else
      matchedCount p fuel (as.take block.first) (bs.take block.second) + block.length +
        matchedCount p fuel (as.drop (block.first + block.length))
          (bs.drop (block.second + block.length))

/-- Characters that a long text has very often do not make a block by themselves. -/
def isDistinctive (text : List Char) (c : Char) : Bool :=
  text.length < 200 || text.count c ≤ text.length / 100 + 1

/-- A text with its similarity to another as a fraction. -/
structure Candidate where
  text : String
  matched : Nat
  total : Nat
  deriving DecidableEq, Repr

namespace Candidate

def of (word text : String) : Candidate :=
  let as := text.toList
  let bs := word.toList
  if as.isEmpty && bs.isEmpty then ⟨text, 1, 1⟩
  else ⟨text, 2 * matchedCount (isDistinctive bs) as.length as bs, as.length + bs.length⟩

/-- At least three fifths. -/
def isClose (c : Candidate) : Bool := 3 * c.total ≤ 5 * c.matched

/-- By similarity, then by text. -/
def atLeast (a b : Candidate) : Bool :=
  let x := a.matched * b.total
  let y := b.matched * a.total
  y < x || (x == y && decide (b.text ≤ a.text))

end Candidate

/-- The three texts most similar to a word among those that are close to it. -/
def closeMatches (word : String) (texts : List String) : List String :=
  let close := (texts.map (Candidate.of word)).filter (·.isClose)
  ((close.mergeSort Candidate.atLeast).take 3).map (·.text)

end InputGuard

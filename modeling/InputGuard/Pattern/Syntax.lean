/-!
# Regular expressions

The abstract syntax of patterns. Options that may change inside a pattern are resolved while it is
read, so a node says by itself what it matches.
-/

namespace InputGuard

structure PatternFlags where
  ignoreCase : Bool
  multiline : Bool
  dotAll : Bool
  verbose : Bool
  ascii : Bool
  deriving DecidableEq, Repr

def PatternFlags.none : PatternFlags := ⟨false, false, false, false, false⟩

namespace Pattern

inductive CharClass
  | digit
  | blank
  | word
  deriving DecidableEq, Repr

/-- A member of a bracketed set. Code points that are no characters match nothing. -/
inductive SetItem
  | code (c : Nat)
  | range (first last : Nat)
  | cls (negated : Bool) (k : CharClass)
  deriving DecidableEq, Repr

/-- How characters are compared: with regard to case or not, and whether only basic Latin counts
for classes and case. -/
structure Comparison where
  ignoreCase : Bool
  ascii : Bool
  deriving DecidableEq, Repr

inductive Anchor
  | textStart
  | textEnd
  | lineStart
  | lineEnd
  /-- At the end of the text or before its final line feed. -/
  | finalEnd
  | wordBoundary (negated ascii : Bool)
  deriving DecidableEq, Repr

/-- What one character of the text has to be. -/
inductive Single
  | any (lineFeed : Bool)
  | code (negated : Bool) (c : Nat)
  | set (negated : Bool) (items : List SetItem)
  deriving DecidableEq, Repr

inductive Greed
  | greedy
  | lazy
  | possessive
  deriving DecidableEq, Repr

inductive Node
  | empty
  | single (how : Comparison) (s : Single)
  | anchor (a : Anchor)
  | sequence (first rest : Node)
  | either (first second : Node)
  | repeated (greed : Greed) (least : Nat) (most : Option Nat) (body : Node)
  | group (index : Nat) (body : Node)
  | reference (how : Comparison) (index : Nat)
  | ahead (negated : Bool) (body : Node)
  | behind (negated : Bool) (width : Nat) (body : Node)
  | atomic (body : Node)
  | conditional (index : Nat) (yes no : Node)
  deriving DecidableEq, Repr

end Pattern

/-- A pattern with its text and the flags in effect for the whole of it. -/
structure Pattern where
  source : String
  flags : PatternFlags
  node : Pattern.Node
  deriving DecidableEq, Repr

/-- Why a text is no pattern. -/
inductive PatternError
  | malformed
  /-- The flags for basic Latin and for all characters are both set. -/
  | conflictingFlags
  /-- A number of repetitions has too many digits to be read. -/
  | unreadableCount
  /-- A number of repetitions is beyond the greatest possible one. -/
  | countTooLarge
  deriving DecidableEq, Repr

end InputGuard

import InputGuard.Pattern.Syntax
import InputGuard.Unicode.Blank
import InputGuard.Unicode.Digit
import InputGuard.Unicode.Fold
import InputGuard.Unicode.Word

/-!
# Searching for a pattern

A node is matched by backtracking: `Node.run` takes what has to match afterwards as a function
and tries the ways to match the node in order. Repetitions end because a round that is not
required and follows a round that moved nothing is not tried.
-/

namespace InputGuard.Pattern

open InputGuard.Unicode

/-- A place in the text, and the spans of the groups matched so far, latest first. -/
structure Cursor where
  position : Nat
  groups : List (Nat × Nat × Nat)

def Cursor.span? (c : Cursor) (index : Nat) : Option (Nat × Nat) :=
  (c.groups.find? (·.1 == index)).map (·.2)

def Cursor.capture (c : Cursor) (index start : Nat) : Cursor :=
  { c with groups := (index, start, c.position) :: c.groups.filter (·.1 != index) }

def isBasicBlank (c : Char) : Bool := c = ' ' || (9 ≤ c.toNat && c.toNat ≤ 13)

def CharClass.holds (ascii : Bool) (c : Char) : CharClass → Bool
  | .digit => if ascii then c.isDigit else isDecimal c
  | .blank => if ascii then isBasicBlank c else isBlank c
  | .word => if ascii then isBasicWord c else isWord c

namespace Comparison

def lower (how : Comparison) (c : Char) : Char :=
  if how.ascii then c.toLower else lowerChar c

def cased (how : Comparison) (c : Nat) : Bool :=
  c.isValidChar && if how.ascii then (Char.ofNat c).isAlpha else hasCase (Char.ofNat c)

/-- The lower case of a code point; one that is no character has none but itself. -/
def lowerCode (how : Comparison) (c : Nat) : Nat :=
  if c.isValidChar then (how.lower (Char.ofNat c)).toNat else c

/-- The lower-case forms that match the lower-case form `c`. -/
def forms (how : Comparison) (c : Nat) : List Nat :=
  if how.ascii then [c] else foldClass c

/-- The code points whose lower case is `c`. -/
def sources (how : Comparison) (c : Nat) : List Nat :=
  if how.ascii then
    if 97 ≤ c && c ≤ 122 then [c, c - 32] else if 65 ≤ c && c ≤ 90 then [] else [c]
  else lowerSources c

/-- Whether a character matches a code point. -/
def sameCode (how : Comparison) (code : Nat) (c : Char) : Bool :=
  if how.ignoreCase && how.cased code then
    (how.forms (how.lowerCode code)).contains (how.lower c).toNat
  else c.toNat == code

end Comparison

def SetItem.plainHolds (ascii : Bool) (c : Char) : SetItem → Bool
  | code a => c.toNat == a
  | range a b => a ≤ c.toNat && c.toNat ≤ b
  | cls negated k => k.holds ascii c != negated

/-- Whether case matters to a member of a set. Beyond the basic plane it is taken to. -/
def SetItem.cased (how : Comparison) : SetItem → Bool
  | code a => a > 0xFFFF || how.cased a
  | range a b => b > 0xFFFF || (List.range (b + 1 - a)).any fun i => how.cased (a + i)
  | cls _ _ => false

/-- Whether a lower-case character is in a set without regard to case. Inside the basic plane a
member stands for all characters with its lower case or a partner of it. Beyond, a code point
stands for itself and a range for the characters in it and those with their upper case in it. -/
def SetItem.foldedHolds (how : Comparison) (c : Char) : SetItem → Bool
  | code a =>
    if a > 0xFFFF then c.toNat == a
    else (how.forms (how.lowerCode a)).contains c.toNat
  | range a b =>
    let basic := (how.forms c.toNat).any fun y =>
      (how.sources y).any fun i => a ≤ i && i ≤ min b 0xFFFF
    let beyond := b > 0xFFFF &&
      ((a ≤ c.toNat && c.toNat ≤ b) ||
        match upperChar c with
        | [u] => a ≤ u.toNat && u.toNat ≤ b
        | _ => false)
    basic || beyond
  | cls negated k => k.holds how.ascii c != negated

def setHolds (how : Comparison) (items : List SetItem) (c : Char) : Bool :=
  if how.ignoreCase && items.any (·.cased how) then
    items.any (·.foldedHolds how (how.lower c))
  else items.any (·.plainHolds how.ascii c)

def Single.holds (how : Comparison) (c : Char) : Single → Bool
  | any lineFeed => lineFeed || c != '\n'
  | code negated a => how.sameCode a c != negated
  | set negated items => setHolds how items c != negated

def wordAt (ascii : Bool) (text : Array Char) (position : Nat) : Bool :=
  (text[position]?.map fun c => CharClass.word.holds ascii c).getD false

/-- In an empty text there is neither a word boundary nor a place that is none. -/
def Anchor.holds (text : Array Char) (position : Nat) : Anchor → Bool
  | textStart => position == 0
  | textEnd => position == text.size
  | lineStart => position == 0 || text[position - 1]? == some '\n'
  | lineEnd => position == text.size || text[position]? == some '\n'
  | finalEnd =>
    position == text.size || (position + 1 == text.size && text[position]? == some '\n')
  | wordBoundary negated ascii =>
    let before := position != 0 && wordAt ascii text (position - 1)
    text.size != 0 && ((before != wordAt ascii text position) != negated)

def sameSpan (how : Comparison) (text : Array Char) (start length position : Nat) : Bool :=
  (List.range length).all fun i =>
    match text[start + i]?, text[position + i]? with
    | some a, some b => if how.ignoreCase then how.lower a == how.lower b else a == b
    | _, _ => false

abbrev Next := Cursor → Option Cursor

/-- At least `least` rounds of `body`, then more as long as the text allows, then `next`. -/
def runGreedy (body : Next → Next) (least : Nat) (most : Option Nat) (next : Next) :
    Nat → Nat → Option Nat → Next
  | 0, _, _, c => next c
  | fuel + 1, count, last, c =>
    if count < least then body (runGreedy body least most next fuel (count + 1) last) c
    else if most.all (count < ·) && last != some c.position then
      match body (runGreedy body least most next fuel (count + 1) (some c.position)) c with
      | some out => some out
      | none => next c
    else next c

/-- At least `least` rounds of `body`, then as few more as `next` allows. -/
def runLazy (body : Next → Next) (least : Nat) (most : Option Nat) (next : Next) :
    Nat → Nat → Option Nat → Next
  | 0, _, _, c => next c
  | fuel + 1, count, last, c =>
    if count < least then body (runLazy body least most next fuel (count + 1) last) c
    else match next c with
      | some out => some out
      | none =>
        if most.all (count < ·) && last != some c.position then
          body (runLazy body least most next fuel (count + 1) (some c.position)) c
        else none

/-- Rounds of `body`, each matched for itself, as many as possible. -/
def runPossessive (body : Next → Next) (least : Nat) (most : Option Nat) :
    Nat → Nat → Option Nat → Next
  | 0, _, _, c => some c
  | fuel + 1, count, last, c =>
    if count < least then
      (body some c).bind (runPossessive body least most fuel (count + 1) last)
    else if most.all (count < ·) && last != some c.position then
      match body some c with
      | some d => runPossessive body least most fuel (count + 1) (some c.position) d
      | none => some c
    else some c

def Node.run (text : Array Char) : Node → Next → Next
  | .empty, next, c => next c
  | .single how s, next, c =>
    match text[c.position]? with
    | some ch => if s.holds how ch then next { c with position := c.position + 1 } else none
    | none => none
  | .anchor a, next, c => if a.holds text c.position then next c else none
  | .sequence a b, next, c => a.run text (b.run text next) c
  | .either a b, next, c =>
    match a.run text next c with
    | some out => some out
    | none => b.run text next c
  | .repeated greed least most body, next, c =>
    let rounds := least + (text.size - c.position) + 2
    match greed with
    | .greedy => runGreedy (body.run text) least most next rounds 0 none c
    | .lazy => runLazy (body.run text) least most next rounds 0 none c
    | .possessive => (runPossessive (body.run text) least most rounds 0 none c).bind next
  | .group index body, next, c =>
    body.run text (fun d => next (d.capture index c.position)) c
  | .reference how index, next, c =>
    match c.span? index with
    | some (start, stop) =>
      if sameSpan how text start (stop - start) c.position then
        next { c with position := c.position + (stop - start) }
      else none
    | none => none
  | .ahead negated body, next, c =>
    match body.run text some c, negated with
    | some d, false => next { c with groups := d.groups }
    | none, true => next c
    | _, _ => none
  | .behind negated width body, next, c =>
    let inside :=
      if width ≤ c.position then body.run text some { c with position := c.position - width }
      else none
    match inside, negated with
    | some d, false => next { c with groups := d.groups }
    | none, true => next c
    | _, _ => none
  | .atomic body, next, c => (body.run text some c).bind next
  | .conditional index yes no, next, c =>
    if (c.span? index).isSome then yes.run text next c else no.run text next c

/-- Whether some part of the text matches. -/
def search (p : Pattern) (text : String) : Bool :=
  let cs := text.toList.toArray
  (List.range (cs.size + 1)).any fun i => (p.node.run cs some ⟨i, []⟩).isSome

end InputGuard.Pattern

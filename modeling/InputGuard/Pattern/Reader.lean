import InputGuard.Pattern.Syntax
import InputGuard.Unicode.Digit
import InputGuard.Unicode.Identifier
import InputGuard.Text.Integer

/-!
# Reading patterns

`Pattern.read` turns a text into a pattern. The text is taken token by token, a token being a
character or a backslash with the character after it. Flags that a pattern sets for its whole or
for a part of it are in effect from the token after them on.
-/

namespace InputGuard.Pattern

open InputGuard.Unicode

inductive Token
  | plain (c : Char)
  | escaped (c : Char)
  deriving DecidableEq

def Token.toList : Token → List Char
  | plain c => [c]
  | escaped c => ['\\', c]

/-- The number of characters that a part of a pattern may match, between two bounds. -/
structure Width where
  least : Nat
  most : Nat

/-- No width is told apart from this one beyond it. -/
def Width.limit : Nat := 0x10000000000000000

def Width.one : Width := ⟨1, 1⟩

def Width.zero : Width := ⟨0, 0⟩

def Width.add (a b : Width) : Width :=
  ⟨min (a.least + b.least) limit, min (a.most + b.most) limit⟩

def Width.either (a b : Width) : Width := ⟨min a.least b.least, max a.most b.most⟩

def Width.repeated (w : Width) (least : Nat) (most : Option Nat) : Width :=
  let top := match most with
    | some n => w.most * n
    | none => if w.most = 0 then 0 else limit
  ⟨min (w.least * least) limit, min top limit⟩

/-- What a piece of a pattern is to a repetition that follows it. -/
inductive PieceKind
  | repeatable
  | anchor
  | repetition
  deriving DecidableEq

structure Piece where
  node : Node
  width : Width
  kind : PieceKind

structure ReaderState where
  next : Option Token
  rest : List Char
  /-- The flags of the whole pattern. -/
  flags : PatternFlags
  /-- Whether the pattern asks for all characters, and for a template without repetitions. -/
  unicode : Bool
  template : Bool
  /-- The number of the next group. -/
  groups : Nat
  names : List (String × Nat)
  /-- The widths of the groups read to their end. -/
  widths : List (Nat × Width)
  /-- The first group inside the outermost look behind that is being read. -/
  behindFrom : Option Nat
  conditionals : List Nat
  /-- Whether a part can be read but not matched. -/
  unmatchable : Bool

abbrev Reader := StateT ReaderState (Except PatternError)

def malformed {α : Type} : Reader α := throw .malformed

/-! ## Tokens -/

def advance : Reader Unit := do
  let s ← get
  match s.rest with
  | [] => set { s with next := none }
  | ['\\'] => malformed
  | '\\' :: c :: rest => set { s with next := some (.escaped c), rest }
  | c :: rest => set { s with next := some (.plain c), rest }

def take : Reader (Option Token) := do
  let t := (← get).next
  advance
  return t

/-- The next token, which the pattern may not end before. -/
def takeSome : Reader Token := do
  match ← take with
  | some t => return t
  | none => malformed

def accept (c : Char) : Reader Bool := do
  if (← get).next = some (.plain c) then
    advance
    return true
  else return false

def expect (c : Char) : Reader Unit := do
  unless ← accept c do malformed

def takeWhile (p : Char → Bool) : Nat → Reader (List Char)
  | 0 => return []
  | n + 1 => do
    match (← get).next with
    | some (.plain c) =>
      if p c then
        advance
        return c :: (← takeWhile p n)
      else return []
    | _ => return []

def remaining : Reader Nat := return (← get).rest.length + 1

/-- The tokens up to the one that ends a name. -/
def takeUntil (stop : Char) : Nat → Reader (List Char)
  | 0 => malformed
  | n + 1 => do
    let t ← takeSome
    if t = .plain stop then return [] else return t.toList ++ (← takeUntil stop n)

def takeName (stop : Char) : Reader (List Char) := do
  let name ← takeUntil stop (← remaining)
  if name.isEmpty then malformed else return name

/-- Skips tokens to the end of a line. -/
def skipLine : Nat → Reader Unit
  | 0 => return ()
  | n + 1 => do
    match ← take with
    | none | some (.plain '\n') => return ()
    | _ => skipLine n

def skipComment : Nat → Reader Unit
  | 0 => malformed
  | n + 1 => do
    if (← takeSome) = .plain ')' then return () else skipComment n

/-! ## Escapes -/

def isHex (c : Char) : Bool :=
  c.isDigit || ('a' ≤ c && c ≤ 'f') || ('A' ≤ c && c ≤ 'F')

def isOctal (c : Char) : Bool := '0' ≤ c && c ≤ '7'

def digitValue (c : Char) : Nat :=
  if c.isDigit then c.toNat - 48 else if 'a' ≤ c then c.toNat - 87 else c.toNat - 55

def readBase (base : Nat) (digits : List Char) : Nat :=
  digits.foldl (fun n c => base * n + digitValue c) 0

/-- An escape of exactly `n` hexadecimal digits. -/
def hexEscape (n : Nat) : Reader Nat := do
  let digits ← takeWhile isHex n
  let value := readBase 16 digits
  if digits.length = n && value ≤ 0x10FFFF then return value else malformed

def controlEscape? : Char → Option Nat
  | 'a' => some 7
  | 'f' => some 12
  | 'n' => some 10
  | 'r' => some 13
  | 't' => some 9
  | 'v' => some 11
  | '\\' => some 92
  | _ => none

def classEscape? : Char → Option SetItem
  | 'd' => some (.cls false .digit)
  | 'D' => some (.cls true .digit)
  | 's' => some (.cls false .blank)
  | 'S' => some (.cls true .blank)
  | 'w' => some (.cls false .word)
  | 'W' => some (.cls true .word)
  | _ => none

def octalEscape (digits : List Char) : Reader Nat :=
  let value := readBase 8 digits
  if value ≤ 0o377 then return value else malformed

/-- An escape that stands for a code point, inside sets and outside. -/
def codeEscape (c : Char) : Reader Nat := do
  if let some n := controlEscape? c then return n
  match c with
  | 'x' => hexEscape 2
  | 'u' => hexEscape 4
  | 'U' => hexEscape 8
  | _ => if c.isAlphanum then malformed else return c.toNat

/-- An escape inside a set. -/
def setEscape (c : Char) : Reader SetItem := do
  if c = 'b' then return .code 8
  if let some item := classEscape? c then return item
  if isOctal c then
    let more ← takeWhile isOctal 2
    return .code (← octalEscape (c :: more))
  return .code (← codeEscape c)

/-! ## Pieces -/

def comparison (flags : PatternFlags) : Comparison := ⟨flags.ignoreCase, flags.ascii⟩

def codePiece (flags : PatternFlags) (c : Nat) : Piece :=
  ⟨.single (comparison flags) (.code false c), .one, .repeatable⟩

def anchorPiece (a : Anchor) : Piece := ⟨.anchor a, .zero, .anchor⟩

/-- A group is referred to only after its end, and from inside a look behind only if it started
before. -/
def checkBehind (group : Nat) : Reader Unit := do
  let s ← get
  match s.behindFrom with
  | none => return ()
  | some first =>
    if (s.widths.find? (·.1 == group)).isNone || first ≤ group then malformed

def referencePiece (flags : PatternFlags) (group : Nat) : Reader Piece := do
  match (← get).widths.find? (·.1 == group) with
  | none => malformed
  | some (_, width) =>
    checkBehind group
    return ⟨.reference (comparison flags) group, width, .repeatable⟩

/-- A backslash and a digit: three octal digits are a code point, else it is a reference. -/
def digitEscape (flags : PatternFlags) (c : Char) : Reader Piece := do
  let second ← takeWhile Char.isDigit 1
  if isOctal c && second.any isOctal then
    let third ← takeWhile isOctal 1
    unless third.isEmpty do
      return codePiece flags (← octalEscape (c :: second ++ third))
  referencePiece flags (readBase 10 (c :: second))

def escapePiece (flags : PatternFlags) (c : Char) : Reader Piece := do
  match c with
  | 'A' => return anchorPiece .textStart
  | 'Z' => return anchorPiece .textEnd
  | 'b' => return anchorPiece (.wordBoundary false flags.ascii)
  | 'B' => return anchorPiece (.wordBoundary true flags.ascii)
  | '0' =>
    let more ← takeWhile isOctal 2
    return codePiece flags (readBase 8 more)
  | _ =>
    if let some item := classEscape? c then
      return ⟨.single (comparison flags) (.set false [item]), .one, .repeatable⟩
    if c.isDigit then digitEscape flags c
    else return codePiece flags (← codeEscape c)

/-! ## Sets -/

def setMember : Token → Reader SetItem
  | .plain c => return .code c.toNat
  | .escaped c => setEscape c

/-- The members of a set after those read before, latest first. -/
def setMembers : Nat → List SetItem → Reader (List SetItem)
  | 0, _ => malformed
  | n + 1, before => do
    let t ← takeSome
    if t = .plain ']' && !before.isEmpty then return before
    let first ← setMember t
    if ← accept '-' then
      let u ← takeSome
      if u = .plain ']' then return .code 45 :: first :: before
      match first, ← setMember u with
      | .code lo, .code hi =>
        if hi < lo then malformed else setMembers n (.range lo hi :: before)
      | _, _ => malformed
    else setMembers n (first :: before)

def setPiece (flags : PatternFlags) : Reader Piece := do
  let negated ← accept '^'
  let members := (← setMembers (← remaining) []).reverse.eraseDups
  let s := match members with
    | [.code c] => Single.code negated c
    | _ => Single.set negated members
  return ⟨.single (comparison flags) s, .one, .repeatable⟩

/-! ## Repetitions -/

/-- Counts from here on are too large. -/
def countLimit : Nat := 0xFFFFFFFF

def readCount (digits : List Char) : Reader Nat :=
  if digits.length > integerDigitLimit then throw .unreadableCount
  else
    let n := readBase 10 digits
    if countLimit ≤ n then throw .countTooLarge else return n

/-- The counts of a repetition in braces, of which the opening one has been read. Braces that
hold no counts stand for themselves. -/
def bracedCounts : Reader (Option (Nat × Option Nat)) := do
  let s ← get
  if s.next = some (.plain '\x7d') then return none
  let lo ← takeWhile Char.isDigit (← remaining)
  let hi ← if ← accept ',' then takeWhile Char.isDigit (← remaining) else pure lo
  unless ← accept '\x7d' do
    set s
    return none
  let least ← if lo.isEmpty then pure 0 else readCount lo
  let most ← if hi.isEmpty then pure none else some <$> readCount hi
  if most.any (· < least) then malformed else return some (least, most)

def repeatPiece (least : Nat) (most : Option Nat) : List Piece → Reader (List Piece)
  | [] => malformed
  | item :: before => do
    if item.kind != .repeatable then malformed
    let greed : Greed ←
      if ← accept '?' then pure .lazy else if ← accept '+' then pure .possessive else pure .greedy
    modify fun s => { s with unmatchable := s.unmatchable || s.template }
    return ⟨.repeated greed least most item.node, item.width.repeated least most, .repetition⟩ ::
      before

/-! ## Flags -/

def isFlag (c : Char) : Bool := ['i', 'L', 'm', 's', 'x', 'a', 't', 'u'].contains c

/-- The flags to turn on, from the first one on, and the character that ends them. -/
def flagsOn : Nat → Char → List Char → Reader (List Char × Char)
  | 0, _, _ => malformed
  | n + 1, c, before => do
    let clash := (c = 'a' && before.contains 'u') || (c = 'u' && before.contains 'a')
    if c = 'L' || clash then malformed
    match ← takeSome with
    | .plain d =>
      if d = ')' || d = '-' || d = ':' then return (c :: before, d)
      else if isFlag d then flagsOn n d (c :: before)
      else malformed
    | .escaped _ => malformed

def flagsOff : Nat → Char → List Char → Reader (List Char)
  | 0, _, _ => malformed
  | n + 1, c, before => do
    if !isFlag c || c = 'a' || c = 'u' || c = 'L' then malformed
    match ← takeSome with
    | .plain ':' => return c :: before
    | .plain d => flagsOff n d (c :: before)
    | .escaped _ => malformed

def PatternFlags.turn (on off : List Char) (flags : PatternFlags) : PatternFlags :=
  let set (c : Char) (b : Bool) := (b || on.contains c) && !off.contains c
  { ignoreCase := set 'i' flags.ignoreCase
    multiline := set 'm' flags.multiline
    dotAll := set 's' flags.dotAll
    verbose := set 'x' flags.verbose
    ascii := on.contains 'a' || (flags.ascii && !on.contains 'u') }

/-- Flags in parentheses: for the whole pattern, or those to turn on and off in a part. -/
def flagGroup (c : Char) : Reader (Option (List Char × List Char)) := do
  let n ← remaining
  let (on, stop) ← if c = '-' then pure ([], '-') else flagsOn n c []
  if stop = ')' then
    modify fun s => { s with
      flags := { PatternFlags.turn on [] s.flags with ascii := s.flags.ascii || on.contains 'a' }
      unicode := s.unicode || on.contains 'u'
      template := s.template || on.contains 't' }
    return none
  if on.contains 't' then malformed
  let off ←
    if stop = '-' then do
      match ← takeSome with
      | .plain d => flagsOff n d []
      | .escaped _ => malformed
    else pure []
  if off.contains 't' || on.any off.contains then malformed
  return some (on, off)

/-! ## Groups and alternatives -/

def openGroup (name : Option String) : Reader Nat := do
  let s ← get
  if let some n := name then
    if (s.names.find? (·.1 == n)).isSome then malformed
  set { s with
    groups := s.groups + 1
    names := (name.map fun n => (n, s.groups)).toList ++ s.names }
  return s.groups

def closeGroup (group : Nat) (width : Width) : Reader Unit :=
  modify fun s => { s with widths := (group, width) :: s.widths }

def groupNamed (name : List Char) : Reader Nat := do
  if !isIdentifier name then malformed
  match (← get).names.find? (·.1 == String.ofList name) with
  | some (_, group) => return group
  | none => malformed

/-- The group that a conditional part asks for, by name or by number. -/
def conditionGroup (name : List Char) : Reader Nat := do
  let group ←
    if isIdentifier name then groupNamed name
    else match readInteger? (String.ofList name) with
      | some n =>
        if n ≤ 0 then malformed
        else do
          modify fun s => { s with conditionals := n.toNat :: s.conditionals }
          pure n.toNat
      | none => malformed
  checkBehind group
  return group

def joinPieces (pieces : List Piece) : Piece :=
  match pieces with
  | [] => ⟨.empty, .zero, .repeatable⟩
  | [p] => { p with kind := .repeatable }
  | p :: rest =>
    let q := joinPieces rest
    ⟨.sequence p.node q.node, p.width.add q.width, .repeatable⟩

def behindPiece (negated : Bool) (p : Piece) : Reader Piece := do
  if p.width.least != p.width.most || p.width.least > countLimit then
    modify fun s => { s with unmatchable := true }
  return ⟨.behind negated p.width.least p.node, .zero, .repeatable⟩

def anyPiece (flags : PatternFlags) : Piece :=
  ⟨.single (comparison flags) (.any flags.dotAll), .one, .repeatable⟩

def isVerboseBlank (t : Token) : Bool :=
  [' ', '\t', '\n', '\r', '\x0b', '\x0c'].any fun c => t = .plain c

mutual

/-- The pieces up to a bar, a closing parenthesis or the end, after those read before. The first
pieces of a pattern may set its flags. -/
def pieces (fuel : Nat) (flags : PatternFlags) (first : Bool) (before : List Piece) :
    Reader (List Piece) :=
  match fuel with
  | 0 => malformed
  | n + 1 => do
    match (← get).next with
    | none | some (.plain '|') | some (.plain ')') => return before
    | some t =>
      advance
      if flags.verbose && isVerboseBlank t then pieces n flags first before
      else if flags.verbose && t = .plain '#' then do
        skipLine (← remaining)
        pieces n flags first before
      else match t with
        | .escaped c => do
          let p ← escapePiece flags c
          pieces n flags first (p :: before)
        | .plain '[' => do
          let p ← setPiece flags
          pieces n flags first (p :: before)
        | .plain '.' => pieces n flags first (anyPiece flags :: before)
        | .plain '^' =>
          let a := if flags.multiline then Anchor.lineStart else .textStart
          pieces n flags first (anchorPiece a :: before)
        | .plain '$' =>
          let a := if flags.multiline then Anchor.lineEnd else .finalEnd
          pieces n flags first (anchorPiece a :: before)
        | .plain '?' => do pieces n flags first (← repeatPiece 0 (some 1) before)
        | .plain '*' => do pieces n flags first (← repeatPiece 0 none before)
        | .plain '+' => do pieces n flags first (← repeatPiece 1 none before)
        | .plain '\x7b' => do
          match ← bracedCounts with
          | none => pieces n flags first (codePiece flags 123 :: before)
          | some (least, most) => pieces n flags first (← repeatPiece least most before)
        | .plain '(' => do
          match ← parenthesis n flags with
          | some (some p) => pieces n flags first (p :: before)
          | some none => pieces n flags first before
          | none =>
            if first && before.isEmpty then do pieces n (← get).flags first before else malformed
        | .plain c => pieces n flags first (codePiece flags c.toNat :: before)

/-- What an opened parenthesis holds: a piece, a comment, or nothing but flags for the whole
pattern. -/
def parenthesis (fuel : Nat) (flags : PatternFlags) : Reader (Option (Option Piece)) :=
  match fuel with
  | 0 => malformed
  | n + 1 => do
    if !(← accept '?') then
      return some (some (← captured n flags none))
    match ← takeSome with
    | .plain 'P' =>
      if ← accept '<' then
        let name ← takeName '>'
        if !isIdentifier name then malformed
        return some (some (← captured n flags (some (String.ofList name))))
      else if ← accept '=' then
        let group ← groupNamed (← takeName ')')
        return some (some (← referencePiece flags group))
      else malformed
    | .plain ':' => return some (some (← enclosed n flags))
    | .plain '>' =>
      let p ← enclosed n flags
      return some (some { p with node := .atomic p.node })
    | .plain '#' =>
      skipComment (← remaining)
      return some none
    | .plain '=' =>
      let p ← enclosed n flags
      return some (some ⟨.ahead false p.node, .zero, .repeatable⟩)
    | .plain '!' =>
      let p ← enclosed n flags
      return some (some ⟨.ahead true p.node, .zero, .repeatable⟩)
    | .plain '<' =>
      let negated ← match ← takeSome with
        | .plain '=' => pure false
        | .plain '!' => pure true
        | _ => malformed
      let outer := (← get).behindFrom
      modify fun s => { s with behindFrom := some (outer.getD s.groups) }
      let p ← alternatives n flags true
      modify fun s => { s with behindFrom := outer }
      expect ')'
      return some (some (← behindPiece negated p))
    | .plain '(' =>
      let group ← conditionGroup (← takeName ')')
      let yes := joinPieces (← pieces n flags false []).reverse
      let no ←
        if ← accept '|' then do
          let p := joinPieces (← pieces n flags false []).reverse
          if (← get).next = some (.plain '|') then malformed
          pure p
        else pure (joinPieces [])
      expect ')'
      return some (some ⟨.conditional group yes.node no.node, yes.width.either no.width, .repeatable⟩)
    | .plain c =>
      if isFlag c || c = '-' then
        match ← flagGroup c with
        | none => return none
        | some (on, off) =>
          return some (some (← enclosed n (PatternFlags.turn on off flags)))
      else malformed
    | .escaped _ => malformed

/-- The rest of a group that keeps what it matched. -/
def captured (fuel : Nat) (flags : PatternFlags) (name : Option String) : Reader Piece :=
  match fuel with
  | 0 => malformed
  | n + 1 => do
    let group ← openGroup name
    let p ← enclosed n flags
    closeGroup group p.width
    return { p with node := .group group p.node }

/-- Alternatives and the parenthesis that closes them. -/
def enclosed (fuel : Nat) (flags : PatternFlags) : Reader Piece :=
  match fuel with
  | 0 => malformed
  | n + 1 => do
    let p ← alternatives n flags true
    expect ')'
    return p

def alternatives (fuel : Nat) (flags : PatternFlags) (nested : Bool) : Reader Piece :=
  match fuel with
  | 0 => malformed
  | n + 1 => do
    let p := joinPieces (← pieces n flags (!nested) []).reverse
    moreAlternatives n flags nested p

/-- The alternatives after the first ones, if a bar follows. -/
def moreAlternatives (fuel : Nat) (flags : PatternFlags) (nested : Bool) (p : Piece) :
    Reader Piece :=
  match fuel with
  | 0 => malformed
  | n + 1 => do
    if ← accept '|' then
      let whole := (← get).flags
      let inner := if nested then flags else whole
      let q := joinPieces (← pieces n inner false []).reverse
      let r ← moreAlternatives n flags nested q
      return ⟨.either p.node r.node, p.width.either r.width, .repeatable⟩
    else return p

end

/-- The whole of a pattern. -/
def wholePattern (fuel : Nat) : Reader Node := do
  advance
  let p ← alternatives fuel (← get).flags false
  let s ← get
  if s.flags.ascii && s.unicode then throw .conflictingFlags
  if s.next.isSome || s.conditionals.any (s.groups ≤ ·) || s.unmatchable then malformed
  return p.node

def read (source : String) (flags : PatternFlags) : Except PatternError Pattern := do
  let start : ReaderState :=
    { next := none, rest := source.toList, flags, unicode := false, template := false, groups := 1,
      names := [], widths := [], behindFrom := none, conditionals := [], unmatchable := false }
  let (node, s) ← (wholePattern (4 * source.length + 8)).run start
  return ⟨source, s.flags, node⟩

end InputGuard.Pattern

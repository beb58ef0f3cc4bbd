import InputGuard.Format.Basic
import InputGuard.Unicode.Word

/-!
# Base64 and data URIs
-/

namespace InputGuard.Format

structure Base64Options where
  /-- Whether the last group is filled up with `=`. -/
  padded : Bool
  urlSafe : Bool
  deriving DecidableEq, Repr

def isBase64Char (urlSafe : Bool) (c : Char) : Bool :=
  c.isAlphanum || if urlSafe then c = '-' || c = '_' else c = '+' || c = '/'

/-- Groups of four characters, of which the last may lack one or two. Those are filled up with
`=`, or left out where that is allowed. -/
def isBase64 (o : Base64Options) (s : List Char) : Bool :=
  let t := dropFinalLineFeed s
  let n := (t.takeWhile (isBase64Char o.urlSafe)).length
  let pad := t.dropWhile (isBase64Char o.urlSafe)
  pad.all (· == '=') &&
    match n % 4 with
    | 0 => pad.length == 0
    | 2 => pad.length == 2 || (!o.padded && pad.length == 0)
    | 3 => pad.length == 1 || (!o.padded && pad.length == 0)
    | _ => false

def isMediaChar (c : Char) : Bool := Unicode.isWord c || c = '+' || c = '.' || c = '-'

/-- A run of the characters of a media type, and the rest. -/
def mediaName? (s : List Char) : Option (List Char) :=
  let rest := s.dropWhile isMediaChar
  if rest.length < s.length then some rest else none

/-- The text after a given start. -/
def afterText? (start : String) (s : List Char) : Option (List Char) :=
  if start.toList.isPrefixOf s then some (s.drop start.length) else none

/-- The body after an encoding or a character set, and whether it is base64. -/
def dataBody (s : List Char) : Bool × List Char :=
  match afterText? "base64," s with
  | some body => (true, body)
  | none =>
    let charset := (afterText? "charset=" s).getD []
    let rest := charset.dropWhile fun c => Unicode.isWord c || c = '-'
    if rest.length < charset.length && rest.head? == some ',' then (false, rest.tail)
    else (false, s)

/-- `data:`, a media type, a semicolon and a body of one line. -/
def isDataUri (padded : Bool) (s : List Char) : Bool :=
  let body? := do
    let s ← afterText? "data:" s
    let s ← afterText? "/" (← mediaName? s)
    afterText? ";" (← mediaName? s)
  match body? with
  | none => false
  | some rest =>
    let (encoded, body) := dataBody rest
    let line := dropFinalLineFeed body
    !line.contains '\n' && (!encoded || isBase64 ⟨padded, false⟩ line)

end InputGuard.Format

import InputGuard.Text.Basic

/-!
# Formats of texts

A format is a class of texts. Most of them let one line feed follow the text proper.
-/

namespace InputGuard.Format

def isHexDigit (c : Char) : Bool :=
  c.isDigit || ('a' ≤ c && c ≤ 'f') || ('A' ≤ c && c ≤ 'F')

/-- Letters, digits and the underscore of basic Latin. -/
def isTokenChar (c : Char) : Bool := c.isAlphanum || c = '_'

/-- One character or more of a class, and perhaps a line feed. -/
def isRunOf (p : Char → Bool) (s : List Char) : Bool :=
  let t := dropFinalLineFeed s
  !t.isEmpty && t.all p

def isAlphanumeric (s : List Char) : Bool := isRunOf Char.isAlphanum s

def isToken (s : List Char) : Bool := isRunOf isTokenChar s

def isHex (s : List Char) : Bool := isRunOf isHexDigit s

end InputGuard.Format

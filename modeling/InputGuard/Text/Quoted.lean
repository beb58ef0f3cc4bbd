import InputGuard.Number.Shortest
import InputGuard.Unicode.Printable

/-!
# Quoted texts

A text between quotes, with escapes for the quote, the backslash and what does not print. The
quotes are single unless the text has single quotes and no double ones.
-/

namespace InputGuard

def hexText (width n : Nat) : String := padZeros width (String.ofList (Nat.toDigits 16 n))

/-- An escape with as many hexadecimal digits as the character needs: two, four or eight. -/
def hexEscapeText (n : Nat) : String :=
  if n < 0x100 then "\\x" ++ hexText 2 n
  else if n < 0x10000 then "\\u" ++ hexText 4 n
  else "\\U" ++ hexText 8 n

def quotedChar (quote c : Char) : String :=
  if c = quote || c = '\\' then String.ofList ['\\', c]
  else if c = '\n' then "\\n"
  else if c = '\r' then "\\r"
  else if c = '\t' then "\\t"
  else if Unicode.isPrintable c then String.ofList [c]
  else hexEscapeText c.toNat

def quoted (s : String) : String :=
  let cs := s.toList
  let quote := if cs.contains '\'' && !cs.contains '"' then '"' else '\''
  let q := String.ofList [quote]
  q ++ String.join (cs.map (quotedChar quote)) ++ q

end InputGuard

import InputGuard.Text.Basic

/-!
# Type references

The type of an input is a named type, a list of items of a type, or a type without null.
-/

namespace InputGuard

inductive TypeRef
  | named (name : String)
  | list (item : TypeRef)
  | nonNull (type : TypeRef)
  deriving DecidableEq, Repr

namespace TypeRef

def text : TypeRef → String
  | named name => name
  | list item => "[" ++ item.text ++ "]"
  | nonNull type => type.text ++ "!"

/-- The type that the marks after a name make of it, with the number of brackets that are still
open. -/
def close : TypeRef → Nat → List Char → Option TypeRef
  | type, 0, [] => some type
  | type, depth + 1, ']' :: rest => close (list type) depth rest
  | nonNull _, _, '!' :: _ => none
  | type, depth, '!' :: rest => close (nonNull type) depth rest
  | _, _, _ => none

def isNameChar (c : Char) : Bool := c.isAlphanum || c = '_'

/-- The type that a text refers to: a name with brackets around it and exclamation marks. -/
def read? (s : String) : Option TypeRef :=
  let cs := s.toList
  let inner := cs.dropWhile (· == '[')
  let name := inner.takeWhile isNameChar
  if name.isEmpty then none
  else
    close (named (String.ofList name)) (cs.length - inner.length) (inner.dropWhile isNameChar)

end TypeRef

end InputGuard

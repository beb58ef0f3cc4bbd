/-!
# Lists of characters

Operations on texts as lists of characters.
-/

namespace InputGuard

/-- The parts of a list between the elements that `p` holds of; always at least one part. -/
def splitWhere {α : Type} (p : α → Bool) : List α → List (List α)
  | [] => [[]]
  | c :: rest =>
    if p c then [] :: splitWhere p rest
    else match splitWhere p rest with
      | part :: more => (c :: part) :: more
      | [] => [[c]]

/-- The parts of a text between the occurrences of a character. -/
def splitOnChar (sep : Char) (s : List Char) : List (List Char) := splitWhere (· == sep) s

/-- The part before the first occurrence of a character and, if there is one, the part after. -/
def partitionOnChar (sep : Char) (s : List Char) : List Char × Option (List Char) :=
  match s.dropWhile (· != sep) with
  | [] => (s, none)
  | _ :: rest => (s.takeWhile (· != sep), some rest)

/-- The text without the elements that `p` holds of at either end. -/
def trimWhere {α : Type} (p : α → Bool) (s : List α) : List α :=
  ((s.dropWhile p).reverse.dropWhile p).reverse

/-- The text without its final line feed, if it ends with one. -/
def dropFinalLineFeed : List Char → List Char
  | [] => []
  | ['\n'] => []
  | c :: rest => c :: dropFinalLineFeed rest

/-- The text without the trailing occurrences of a character. -/
def dropTrailing (c : Char) (s : List Char) : List Char := (s.reverse.dropWhile (· == c)).reverse

/-- The parts of a text between the occurrences of another that is not empty. `skip` characters of
an occurrence that has been found are still to pass. -/
def splitOnText (sep : List Char) : Nat → List Char → List (List Char)
  | _, [] => [[]]
  | skip + 1, _ :: rest => splitOnText sep skip rest
  | 0, c :: rest =>
    if sep.isPrefixOf (c :: rest) then [] :: splitOnText sep (sep.length - 1) rest
    else match splitOnText sep 0 rest with
      | part :: more => (c :: part) :: more
      | [] => [[c]]

def joinText (sep : String) (parts : List String) : String := sep.intercalate parts

end InputGuard

/-!
# Readings

A reading takes a value from the start of a text in every possible way. Where a text can be read
in several ways, all of them are kept, each with the rest of the text.
-/

namespace InputGuard

def Reading (α : Type) := List Char → List (α × List Char)

namespace Reading

instance : Monad Reading where
  pure a := fun s => [(a, s)]
  bind r f := fun s => (r s).flatMap fun (a, rest) => f a rest

def either {α : Type} (a b : Reading α) : Reading α := fun s => a s ++ b s

def optional {α : Type} (r : Reading α) : Reading (Option α) :=
  fun s => (r s).map (fun (a, rest) => (some a, rest)) ++ [(none, s)]

def charThat (p : Char → Bool) : Reading Char
  | c :: rest => if p c then [(c, rest)] else []
  | [] => []

def char (c : Char) : Reading Char := charThat (· == c)

def exactly (p : Char → Bool) : Nat → Reading Unit
  | 0 => pure ()
  | n + 1 => do
    let _ ← charThat p
    exactly p n

/-- One character or more. -/
def oneOrMore (p : Char → Bool) : Reading Unit
  | c :: rest => if p c then ((), rest) :: oneOrMore p rest else []
  | [] => []

/-- Reads nothing, where the text ahead is not of a certain form. -/
def refuse (p : List Char → Bool) : Reading Unit := fun s => if p s then [] else [((), s)]

/-- Whether a text can be read up to its end or up to its final line feed. -/
def accepts {α : Type} (r : Reading α) (s : List Char) : Bool :=
  (r s).any fun (_, rest) => rest.isEmpty || rest == ['\n']

end Reading

end InputGuard

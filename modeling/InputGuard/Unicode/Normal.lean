import InputGuard.Unicode.NormalTable
import InputGuard.Unicode.Ranges

/-!
# Normalization forms

A text is decomposed, its marks are put in canonical order, and for the composed forms it is
composed again.
-/

namespace InputGuard.Unicode

inductive NormalForm
  | composed
  | decomposed
  | compatComposed
  | compatDecomposed
  deriving DecidableEq, Repr

namespace NormalForm

def name : NormalForm → String
  | composed => "NFC"
  | decomposed => "NFD"
  | compatComposed => "NFKC"
  | compatDecomposed => "NFKD"

def all : List NormalForm := [composed, decomposed, compatComposed, compatDecomposed]

def ofName? (name : String) : Option NormalForm := all.find? (·.name == name)

def compat : NormalForm → Bool
  | composed | decomposed => false
  | compatComposed | compatDecomposed => true

def composes : NormalForm → Bool
  | composed | compatComposed => true
  | decomposed | compatDecomposed => false

end NormalForm

def hexValue (c : Char) : Nat :=
  if c.isDigit then c.toNat - '0'.toNat else c.toNat - 'A'.toNat + 10

structure TableState where
  entries : List (List Nat)
  row : List Nat
  cell : Nat

/-- The rows of hexadecimal numbers of a table. -/
def readTable (text : String) : List (List Nat) :=
  let close (t : TableState) : TableState :=
    if t.row.isEmpty && t.cell == 0 then t
    else ⟨(t.cell :: t.row).reverse :: t.entries, [], 0⟩
  let step (t : TableState) (c : Char) : TableState :=
    if c = ' ' || c = '\n' then close t
    else if c = ':' || c = '+' then { t with row := t.cell :: t.row, cell := 0 }
    else { t with cell := 16 * t.cell + hexValue c }
  (close (text.toList.foldl step ⟨[], [], 0⟩)).entries.reverse

def canonicalTable : List (List Nat) := readTable canonicalText

def compatibilityTable : List (List Nat) := readTable compatibilityText

def compositionTable : List (List Nat) := readTable compositionText

def findRow? (table : List (List Nat)) (c : Nat) : Option (List Nat) :=
  (table.find? fun row => row.head? == some c).map List.tail

def combiningClass (c : Nat) : Nat :=
  if c < 0x300 then 0
  else ((combiningRanges.find? fun r => r.1 ≤ c && c ≤ r.2.1).map (·.2.2)).getD 0

def hangulBase : Nat := 0xAC00
def hangulLead : Nat := 0x1100
def hangulVowel : Nat := 0x1161
def hangulTail : Nat := 0x11A7

def isHangul (c : Nat) : Bool := hangulBase ≤ c && c < hangulBase + 11172

def decomposeHangul (c : Nat) : List Nat :=
  let i := c - hangulBase
  [hangulLead + i / 588, hangulVowel + i % 588 / 28] ++
    if i % 28 = 0 then [] else [hangulTail + i % 28]

def composeHangul? (a b : Nat) : Option Nat :=
  if hangulLead ≤ a && a < hangulLead + 19 && hangulVowel ≤ b && b < hangulVowel + 21 then
    some (hangulBase + ((a - hangulLead) * 21 + (b - hangulVowel)) * 28)
  else if isHangul a && (a - hangulBase) % 28 == 0 && hangulTail < b && b < hangulTail + 28 then
    some (a + (b - hangulTail))
  else none

def decompose (compat : Bool) (c : Nat) : List Nat :=
  if c < 0xA0 then [c]
  else if isHangul c then decomposeHangul c
  else
    let canonical := (findRow? canonicalTable c).getD [c]
    if compat then (findRow? compatibilityTable c).getD canonical else canonical

/-- Puts a mark before the marks of a higher class that the reversed text `before` ends with. -/
def insertMark (c : Nat) : List Nat → List Nat
  | [] => [c]
  | d :: before =>
    if combiningClass c != 0 && combiningClass c < combiningClass d then
      d :: insertMark c before
    else c :: d :: before

/-- Every run of marks in the order of their classes. -/
def orderMarks (s : List Nat) : List Nat :=
  (s.foldl (fun before c => insertMark c before) []).reverse

def compose? (a b : Nat) : Option Nat :=
  (composeHangul? a b).or
    ((compositionTable.find? fun row => row.tail == [a, b]).bind List.head?)

/-- A starter and the marks after it that did not combine with it, the last one first. -/
structure Cluster where
  starter : Option Nat
  marks : List Nat

/-- A mark is blocked from the starter by a mark of its own class or a higher one. -/
def Cluster.blocked (k : Cluster) (cls : Nat) : Bool :=
  match k.marks.head? with
  | some m => combiningClass m == 0 || cls ≤ combiningClass m
  | none => false

def Cluster.toList (k : Cluster) : List Nat := k.starter.toList ++ k.marks.reverse

def composeFrom (k : Cluster) : List Nat → List Nat
  | [] => k.toList
  | c :: rest =>
    let cls := combiningClass c
    match k.starter.bind (compose? · c) with
    | some composite =>
      if k.blocked cls then
        if cls = 0 then k.toList ++ composeFrom ⟨some c, []⟩ rest
        else composeFrom { k with marks := c :: k.marks } rest
      else composeFrom { k with starter := some composite } rest
    | none =>
      if cls = 0 then k.toList ++ composeFrom ⟨some c, []⟩ rest
      else composeFrom { k with marks := c :: k.marks } rest

def normalize (form : NormalForm) (s : String) : String :=
  let decomposed := orderMarks (s.toList.flatMap fun c => decompose form.compat c.toNat)
  let out := if form.composes then composeFrom ⟨none, []⟩ decomposed else decomposed
  String.ofList (out.map Char.ofNat)

end InputGuard.Unicode

import InputGuard.Text.Basic

/-!
# Sizes of encoded texts

The number of bytes that a text takes in an encoding, if it can be encoded. Which encodings there
are is known by name from a registry. One registry is given here: the forms of Unicode and the
encodings of its first characters, under several names, written with any case and any separators.
-/

namespace InputGuard

/-- The number of bytes that a text takes in an encoding; none if it cannot be encoded. -/
abbrev Codec := List Char → Option Nat

/-- The encodings that are known by name. -/
structure Codecs where
  find? : String → Option Codec

inductive Encoding
  | ascii
  | latin1
  /-- The forms of Unicode, some of them with a mark in front of the text. -/
  | utf8 (mark : Bool)
  | utf16 (mark : Bool)
  | utf32 (mark : Bool)
  deriving DecidableEq, Repr

namespace Encoding

def charSize? (c : Char) : Encoding → Option Nat
  | ascii => if c.toNat < 0x80 then some 1 else none
  | latin1 => if c.toNat < 0x100 then some 1 else none
  | utf8 _ => some c.utf8Size
  | utf16 _ => some (if c.toNat < 0x10000 then 2 else 4)
  | utf32 _ => some 4

def markSize : Encoding → Nat
  | utf8 true => 3
  | utf16 true => 2
  | utf32 true => 4
  | _ => 0

def size? (e : Encoding) (s : List Char) : Option Nat := do
  return (← s.mapM (charSize? · e)).foldl (· + ·) e.markSize

/-- The encodings under their proper names. -/
def properNames : List (String × Encoding) :=
  [("ascii", ascii), ("latin_1", latin1), ("utf_8", utf8 false), ("utf_8_sig", utf8 true),
    ("utf_16", utf16 true), ("utf_16_le", utf16 false), ("utf_16_be", utf16 false),
    ("utf_32", utf32 true), ("utf_32_le", utf32 false), ("utf_32_be", utf32 false)]

def otherNames : List (Encoding × List String) :=
  [(ascii, ["646", "ansi_x3.4_1968", "ansi_x3_4_1968", "ansi_x3.4_1986", "cp367", "csascii",
      "ibm367", "iso646_us", "iso_646.irv_1991", "iso_ir_6", "us", "us_ascii"]),
    (latin1, ["8859", "cp819", "csisolatin1", "ibm819", "iso8859", "iso8859_1", "iso_8859_1",
      "iso_8859_1_1987", "iso_ir_100", "l1", "latin", "latin1"]),
    (utf8 false, ["u8", "utf", "utf8", "utf8_ucs2", "utf8_ucs4", "cp65001"]),
    (utf16 true, ["u16", "utf16"]),
    (utf16 false, ["unicodebigunmarked", "utf_16be", "unicodelittleunmarked", "utf_16le"]),
    (utf32 true, ["u32", "utf32"]),
    (utf32 false, ["utf_32be", "utf_32le"])]

/-- A name in small letters, with one underscore for whatever separates its parts. -/
def canonicalName (name : String) : String :=
  let parts := splitWhere (fun c => !c.isAlphanum && c != '.') name.toList
  joinText "_" ((parts.filter fun p => !p.isEmpty).map fun p => String.ofList (p.map Char.toLower))

def ofOtherName? (name : String) : Option Encoding :=
  (otherNames.find? fun (_, names) => names.contains name).map (·.1)

def ofName? (name : String) : Option Encoding :=
  let canonical := canonicalName name
  let undotted := String.ofList (canonical.toList.map fun c => if c = '.' then '_' else c)
  ((ofOtherName? canonical).or (ofOtherName? undotted)).or
    ((properNames.find? (·.1 == canonical)).map (·.2))

end Encoding

/-- The forms of Unicode and the encodings of its first characters. -/
def Codecs.unicode : Codecs where
  find? name := (Encoding.ofName? name).map Encoding.size?

end InputGuard

import InputGuard.Fault
import InputGuard.Format.Domain
import InputGuard.Text.Integer

/-!
# Network addresses and host names
-/

namespace InputGuard.Format

open Unicode

inductive AddressVersion
  | v4
  | v6
  | future
  deriving DecidableEq, Repr

namespace AddressVersion

def name : AddressVersion → String
  | v4 => "ipv4"
  | v6 => "ipv6"
  | future => "ipvfuture"

def all : List AddressVersion := [v4, v6, future]

def ofName? (name : String) : Option AddressVersion := all.find? (·.name == name)

/-- The length of a whole address in bits. -/
def bits : AddressVersion → Nat
  | v4 => 32
  | _ => 128

end AddressVersion

/-- Whether an address comes with a slash and the length of a network part. -/
inductive Cidr
  | maybe
  | required
  | forbidden
  deriving DecidableEq, Repr

namespace Cidr

def name : Cidr → String
  | maybe => "optional"
  | required => "required"
  | forbidden => "forbidden"

def ofName? (name : String) : Option Cidr := [maybe, required, forbidden].find? (·.name == name)

end Cidr

structure AddressOptions where
  /-- The versions asked for; all, if there are none. -/
  requested : List AddressVersion
  cidr : Cidr
  deriving DecidableEq, Repr

def AddressOptions.versions (o : AddressOptions) : List AddressVersion :=
  if o.requested.isEmpty then AddressVersion.all else o.requested

/-- A decimal number up to 255 without leading zeros. -/
def isOctet (s : List Char) : Bool :=
  !s.isEmpty && s.length ≤ 3 && s.all Char.isDigit && (s == ['0'] || s.head? != some '0') &&
    digitsValue s ≤ 255

def isVersion4 (s : List Char) : Bool :=
  let octets := splitOnChar '.' s
  octets.length == 4 && octets.all isOctet

def isHextet (s : List Char) : Bool := !s.isEmpty && s.length ≤ 4 && s.all isHexDigit

/-- The parts between colons, with a final address of version 4 taken as two parts. -/
def hextets? (s : List Char) : Option (List (List Char)) :=
  let parts := splitOnChar ':' s
  if parts.length < 3 then none
  else match parts.getLast? with
    | some last =>
      if last.contains '.' then
        if isVersion4 last then some (parts.dropLast ++ [['0'], ['0']]) else none
      else some parts
    | none => none

/-- The parts on one side of a gap; an empty one at the outer end belongs to the gap. -/
def outerParts? (inward : List (List Char)) : Option (List (List Char)) :=
  match inward with
  | [] :: rest => if rest.isEmpty then some [] else none
  | parts => some parts

/-- Eight parts, or fewer with one gap. -/
def isHextets (parts : List (List Char)) : Bool :=
  let inner := (parts.drop 1).dropLast
  match (inner.filter List.isEmpty).length with
  | 0 => parts.length == 8 && parts.all isHextet
  | 1 =>
    let gap := (inner.takeWhile fun p => !p.isEmpty).length + 1
    match outerParts? (parts.take gap), outerParts? (parts.drop (gap + 1)).reverse with
    | some high, some low =>
      high.length + low.length ≤ 7 && high.all isHextet && low.all isHextet
    | _, _ => false
  | _ => false

/-- An address of version 6, with a zone after a percent sign if there is one. -/
def isVersion6 (s : List Char) : Bool :=
  let (address, zone) := partitionOnChar '%' s
  (match zone with
    | some z => !z.isEmpty && !z.contains '%'
    | none => true) &&
    match hextets? address with
    | some parts => parts.length ≤ 9 && isHextets parts
    | none => false

def addressVersion? (s : List Char) : Option AddressVersion :=
  if s.contains '/' then none
  else if isVersion4 s then some .v4 else if isVersion6 s then some .v6 else none

def isFutureChar (c : Char) : Bool :=
  c.isAlphanum || "-._~!$&'()*+,;=:".toList.contains c

/-- `v`, hexadecimal digits, a dot and further characters, and perhaps a line feed. -/
def isFutureAddress (s : List Char) : Bool :=
  match dropFinalLineFeed s with
  | 'v' :: rest =>
    let after := rest.dropWhile isHexDigit
    after.length < rest.length && after.head? == some '.' && !after.tail.isEmpty &&
      after.tail.all isFutureChar
  | _ => false

/-- A network length is written in digits; one that is no numeral cannot be compared. -/
def isNetworkLength (bits : Nat) (s : List Char) : Except Fault Bool :=
  if s.isEmpty || !s.all isDigit then .ok false
  else match readInteger? (String.ofList s) with
    | some n => .ok (n ≤ bits)
    | none => .error .badValue

def isAddress (o : AddressOptions) (s : List Char) : Except Fault Bool :=
  let (address, network) := partitionOnChar '/' s
  if o.cidr = .required && network.isNone then .ok false
  else if o.cidr = .forbidden && network.isSome then .ok false
  else if o.versions.contains .future && network.isNone && isFutureAddress s then .ok true
  else match addressVersion? address with
    | none => .ok false
    | some v =>
      if !o.versions.contains v then .ok false
      else match network with
        | none => .ok true
        | some length => isNetworkLength v.bits length

/-- An address, or up to 255 characters of labels between dots. -/
def isHostname (s : List Char) : Bool :=
  (addressVersion? s).isSome || (s.length ≤ 255 && (labels s).all (isLabel false))

end InputGuard.Format

import Attest.Domain.Name
import Attest.Format.Address

/-!
Absolute web addresses: the scheme http or https and a host. Readers are as lenient as browsers are: blanks at the
ends and line breaks anywhere do not count, any number of slashes of either kind may stand before the host, and
what comes behind the host and the number of the service is free.
-/

namespace Attest

namespace Url

/-- The characters that count. -/
def significant (s : String) : List Char :=
  let isOuter (c : Char) : Bool := c.toNat ≤ 0x20
  let inner := ((s.toList.dropWhile isOuter).reverse.dropWhile isOuter).reverse
  inner.filter fun c => c != '\t' && c != '\n' && c != '\r'

/-- What stands behind the scheme, if that is one of the web. -/
def afterScheme? (cs : List Char) : Option (List Char) :=
  match cs.span (· != ':') with
  | (scheme, ':' :: rest) =>
      if scheme.map Char.toLower ∈ ["http".toList, "https".toList] then some rest else none
  | _ => none

def isSlash (c : Char) : Bool :=
  c == '/' || c == '\\'

/-- The characters that end the part with the host. -/
def endsAuthority (c : Char) : Bool :=
  isSlash c || c == '?' || c == '#'

/-- The part behind the last sign that ends the name of a user; it may be missing, but it must not be empty. -/
def afterUser? (authority : List Char) : Option (List Char) :=
  if authority.contains '@' then
    let host := (authority.reverse.takeWhile (· != '@')).reverse
    if host.isEmpty then none else some host
  else some authority

/-- Splits at the colon before the number of a service, which is not one in brackets. -/
def splitService : Bool → List Char → List Char × Option (List Char)
  | _, [] => ([], none)
  | bracketed, c :: cs =>
      if c = ':' ∧ !bracketed then ([], some cs)
      else
        let bracketed := c == '[' || (bracketed && c != ']')
        let (host, service) := splitService bracketed cs
        (c :: host, service)

def isServiceNumber (cs : List Char) : Bool :=
  cs.all Char.isDigit && Address.decimal cs ≤ 65535

/-! ### Hosts -/

def hexDigit? (c : Char) : Option Nat :=
  if c.isDigit then some (c.toNat - '0'.toNat)
  else if 'a' ≤ c ∧ c ≤ 'f' then some (c.toNat - 'a'.toNat + 10)
  else if 'A' ≤ c ∧ c ≤ 'F' then some (c.toNat - 'A'.toNat + 10)
  else none

/-- The bytes of a text in which a percent sign and two digits stand for a byte. -/
def percentDecoded : List UInt8 → List UInt8
  | [] => []
  | 0x25 :: a :: b :: rest =>
      match hexDigit? (Char.ofNat a.toNat), hexDigit? (Char.ofNat b.toNat) with
      | some m, some n => UInt8.ofNat (16 * m + n) :: percentDecoded rest
      | _, _ => 0x25 :: percentDecoded (a :: b :: rest)
  | a :: rest => a :: percentDecoded rest

/-- The host name with the bytes that percent signs stand for. -/
def decodedHost? (host : List Char) : Option (List Char) :=
  let bytes := (percentDecoded (String.ofList host).toUTF8.data.toList).toByteArray
  (String.fromUTF8? bytes).map String.toList

/-- A number of an address of version 4, in decimal, hexadecimal or octal digits. -/
def addressNumber? (cs : List Char) : Option Nat :=
  let (base, digits) := match cs with
    | '0' :: 'x' :: rest | '0' :: 'X' :: rest => (16, rest)
    | '0' :: d :: rest => (8, d :: rest)
    | cs => (10, cs)
  if cs.isEmpty then none
  else
    (digits.mapM fun c => (hexDigit? c).filter (· < base)).map fun ds => ds.foldl (fun n d => base * n + d) 0

/-- The labels of a name without the empty one behind a point at the end. -/
def properLabels (labels : List (List Char)) : List (List Char) :=
  if labels.getLast? = some [] then labels.dropLast else labels

/-- A name whose last label is a number has to be an address. -/
def endsInNumber (labels : List (List Char)) : Bool :=
  match (properLabels labels).getLast? with
  | none => false
  | some last => (!last.isEmpty && last.all Char.isDigit) || (addressNumber? last).isSome

/-- At most four numbers, the last of which fills what the others leave. -/
def isAddressV4 (labels : List (List Char)) : Bool :=
  match (properLabels labels).mapM addressNumber? with
  | none => false
  | some numbers =>
      numbers.length ≤ 4 &&
        match numbers.reverse with
        | [] => false
        | last :: others => last < Nat.pow 256 (4 - others.length) && others.all (· ≤ 255)

/-- A host is an address of version 6 in brackets, an address of version 4, or a domain name. -/
def isHost (host : List Char) : Bool :=
  match host with
  | [] => false
  | '[' :: rest => rest.getLast? = some ']' && Address.isV6 rest.dropLast
  | host =>
      match (decodedHost? host).bind Domain.labels? with
      | none => false
      | some labels => labels ≠ [[]] && if endsInNumber labels then isAddressV4 labels else true

end Url

open Url in
/-- Whether a text is an absolute web address. -/
def isWebUrl (s : String) : Bool :=
  match afterScheme? (significant s) with
  | none => false
  | some rest =>
      match afterUser? ((rest.dropWhile isSlash).takeWhile (!endsAuthority ·)) with
      | none => false
      | some authority =>
          let (host, service) := splitService false authority
          isHost host && service.all isServiceNumber

end Attest

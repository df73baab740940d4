import Attest.Format.Address
import Attest.Text.Split

/-!
Universally unique identifiers: 32 hexadecimal digits, or five groups of them between hyphens, the latter
also in braces or after `urn:uuid:`.
-/

namespace Attest

namespace Uuid

def groupLengths : List Nat :=
  [8, 4, 4, 4, 12]

def isSimple (cs : List Char) : Bool :=
  cs.length == 32 && cs.all Address.isHexDigit

def isHyphenated (cs : List Char) : Bool :=
  let groups := splitAtEach '-' cs
  groups.map List.length == groupLengths && groups.all fun group => group.all Address.isHexDigit

def isBraced : List Char → Bool
  | '{' :: rest => rest.getLast? == some '}' && isHyphenated rest.dropLast
  | _ => false

/-- The name prefix is read without regard to case. -/
def isUrn (cs : List Char) : Bool :=
  (cs.take 9).map Char.toLower == "urn:uuid:".toList && isHyphenated (cs.drop 9)

end Uuid

open Uuid in
/-- Whether a text is a UUID in one of its written forms. -/
def isUuid (s : String) : Bool :=
  let cs := s.toList
  isSimple cs || isHyphenated cs || isBraced cs || isUrn cs

end Attest

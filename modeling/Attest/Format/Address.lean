/-!
Textual addresses of the Internet Protocol, versions 4 and 6. Readers give the text after an address, so
that an address of version 4 can end one of version 6; a whole text is an address when nothing is left.
-/

namespace Attest

/-- The addresses a rule asks for. -/
inductive AddressFamily
  | v4
  | v6
  | any
  deriving DecidableEq, Repr

def AddressFamily.label : AddressFamily → String
  | .v4 => "IPv4"
  | .v6 => "IPv6"
  | .any => "IP"

namespace Address

def isHexDigit (c : Char) : Bool :=
  c.isDigit || ('a' ≤ c && c ≤ 'f') || ('A' ≤ c && c ≤ 'F')

/-- The number that decimal digits denote. -/
def decimal (digits : List Char) : Nat :=
  digits.foldl (fun n c => 10 * n + (c.toNat - '0'.toNat)) 0

/-- One to three digits without a superfluous zero, at most 255. -/
def readOctet (cs : List Char) : Option (List Char) :=
  let digits := cs.takeWhile Char.isDigit
  if digits.isEmpty || 3 < digits.length || (1 < digits.length && digits.head? == some '0') ||
      255 < decimal digits then
    none
  else
    some (cs.dropWhile Char.isDigit)

/-- One to four hexadecimal digits. -/
def readGroup (cs : List Char) : Option (List Char) :=
  let digits := cs.takeWhile isHexDigit
  if digits.isEmpty || 4 < digits.length then none else some (cs.dropWhile isHexDigit)

def readSeparator (sep : Char) : List Char → Option (List Char)
  | [] => none
  | c :: rest => if c = sep then some rest else none

/-- An item, after a separator unless it is the first. -/
def readSeparated (sep : Char) (first : Bool) (item : List Char → Option (List Char)) (cs : List Char) :
    Option (List Char) :=
  if first then item cs else (readSeparator sep cs).bind item

/-- Four octets between points. -/
def readV4 (cs : List Char) : Option (List Char) := do
  let cs ← readSeparated '.' true readOctet cs
  let cs ← readSeparated '.' false readOctet cs
  let cs ← readSeparated '.' false readOctet cs
  readSeparated '.' false readOctet cs

/-- Reads at most `room` groups between colons; an address of version 4 counts as two groups and ends the
run. Gives the number of groups, whether such an address ended them, and the text after them. -/
def readGroups : Nat → Bool → List Char → Nat × Bool × List Char
  | 0, _, cs => (0, false, cs)
  | room + 1, first, cs =>
      match if 1 ≤ room then readSeparated ':' first readV4 cs else none with
      | some rest => (2, true, rest)
      | none =>
          match readSeparated ':' first readGroup cs with
          | some rest =>
              let (count, embedded, rest) := readGroups room false rest
              (count + 1, embedded, rest)
          | none => (0, false, cs)

/-- Eight groups, or fewer with a double colon in the place of at least one. -/
def readV6 (cs : List Char) : Option (List Char) :=
  let (head, embedded, rest) := readGroups 8 true cs
  if head = 8 then some rest
  else if embedded then none
  else
    match rest with
    | ':' :: ':' :: rest => some (readGroups (7 - head) true rest).2.2
    | _ => none

def isV4 (cs : List Char) : Bool :=
  readV4 cs == some []

def isV6 (cs : List Char) : Bool :=
  readV6 cs == some []

end Address

open Address in
/-- Whether a text is an address of the family, with nothing around it. -/
def isAddress (s : String) : AddressFamily → Bool
  | .v4 => isV4 s.toList
  | .v6 => isV6 s.toList
  | .any => isV4 s.toList || isV6 s.toList

end Attest

import Attest.Text.Split

/-!
Email addresses of the form local@domain in plain ASCII: dot-separated atoms before the sign, a domain of
at least two labels after it, and the usual limits on the length of the whole and of its parts, in bytes.
-/

namespace Attest

namespace Email

def maxLength : Nat := 254

def maxLocalLength : Nat := 64

def maxDomainLength : Nat := 253

def maxLabelLength : Nat := 63

/-- The bytes of a text in UTF-8. -/
def byteLength (cs : List Char) : Nat :=
  (String.ofList cs).utf8ByteSize

/-- The characters of atoms besides letters and digits. -/
def atomSigns : List Char :=
  ['!', '#', '$', '%', '&', '\'', '*', '+', '/', '=', '?', '^', '_', '\x60', '{', '|', '}', '~', '-']

def isAtomChar (c : Char) : Bool :=
  c.isAlphanum || atomSigns.contains c

def isLocalPart (cs : List Char) : Bool :=
  !cs.isEmpty && byteLength cs ≤ maxLocalLength &&
    (splitAtEach '.' cs).all fun atom => !atom.isEmpty && atom.all isAtomChar

def isLabelChar (c : Char) : Bool :=
  c.isAlphanum || c == '-'

def isLabel (cs : List Char) : Bool :=
  !cs.isEmpty && byteLength cs ≤ maxLabelLength && cs.head? != some '-' && cs.getLast? != some '-' &&
    cs.all isLabelChar

def isDomain (cs : List Char) : Bool :=
  let labels := splitAtEach '.' cs
  !cs.isEmpty && byteLength cs ≤ maxDomainLength && 2 ≤ labels.length && labels.all isLabel &&
    labels.getLast?.any fun label => !label.all Char.isDigit

end Email

open Email in
/-- Whether a text is an address for mail. -/
def isEmail (s : String) : Bool :=
  s.utf8ByteSize ≤ maxLength &&
    match splitAtFirst (· == '@') s.toList with
    | some (localPart, domain) => isLocalPart localPart && isDomain domain
    | none => false

end Attest

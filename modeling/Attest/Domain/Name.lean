import Attest.Domain.Mapping
import Attest.Domain.Punycode
import Attest.Text.Bidi
import Attest.Text.Category
import Attest.Text.Joining
import Attest.Text.Normal
import Attest.Text.Split

/-!
Domain names in any script. A name is mapped, put into its normal form and split into labels, and a label that begins
with `xn--` is replaced by the one that it stands for. A label then has to consist of valid characters, must not
begin with a mark, may hold joiners only where scripts need them, and in a name with letters that run from right to left
has to keep one direction.
-/

namespace Attest.Domain

/-- A character of ASCII that no host name holds. -/
def isForbidden (c : Char) : Bool :=
  c.toNat ≤ 0x20 || c.toNat = 0x7F || "%#/:<>?@[\\]^|".contains c

/-! ### Joiners -/

def markSet : CharSet :=
  categorySet ["M"]

def isVirama (c : Char) : Bool :=
  Normal.combiningClass c.toNat = 9

def transparentSet : CharSet := joiningSet ["T"]

def joinsLeftSet : CharSet := joiningSet ["L", "D"]

def joinsRightSet : CharSet := joiningSet ["R", "D"]

/-- Whether the first character that joining does not ignore is in a set. -/
def nextJoins (s : CharSet) (cs : List Char) : Bool :=
  (cs.dropWhile transparentSet.contains).head?.any s.contains

/-- A joiner may follow a virama, and one that separates may stand between letters that would join; `before` is
in reverse. -/
def joinersFit : List Char → List Char → Bool
  | _, [] => true
  | before, c :: cs =>
      let afterVirama := before.head?.any isVirama
      let fits :=
        if c = '\u200C' then afterVirama || (nextJoins joinsLeftSet before && nextJoins joinsRightSet cs)
        else if c = '\u200D' then afterVirama
        else true
      fits && joinersFit (c :: before) cs

/-! ### Directions -/

def leftSet : CharSet := bidiSet ["L"]
def rightSet : CharSet := bidiSet ["R", "AL"]
def europeanSet : CharSet := bidiSet ["EN"]
def arabicSet : CharSet := bidiSet ["AN"]
def nonspacingSet : CharSet := bidiSet ["NSM"]
def rightToLeftSet : CharSet := bidiSet ["R", "AL", "AN"]
def withinLeftSet : CharSet := bidiSet ["L", "EN", "ES", "CS", "ET", "ON", "BN", "NSM"]
def withinRightSet : CharSet := bidiSet ["R", "AL", "AN", "EN", "ES", "CS", "ET", "ON", "BN", "NSM"]
def endLeftSet : CharSet := bidiSet ["L", "EN"]
def endRightSet : CharSet := bidiSet ["R", "AL", "EN", "AN"]

/-- Whether a label keeps one direction: it begins with a letter of it, ends in a letter or digit before any marks,
and with letters from right to left has only one kind of digits. -/
def keepsDirection (label : List Char) : Bool :=
  match label with
  | [] => true
  | first :: _ =>
      let last := (label.reverse.dropWhile nonspacingSet.contains).head?
      if leftSet.contains first then
        label.all withinLeftSet.contains && last.any endLeftSet.contains
      else if rightSet.contains first then
        label.all withinRightSet.contains && last.any endRightSet.contains &&
          !(label.any europeanSet.contains && label.any arabicSet.contains)
      else false

/-! ### Labels -/

/-- The most characters of a label that is to be written in ASCII, and the most of one that is to be read from it. -/
def maxEncoded : Nat := 1000

def maxDecoded : Nat := 2000

def isAscii (cs : List Char) : Bool :=
  cs.all fun c => c.toNat < 128

/-- What a label stands for, if it is in order by itself. -/
def readLabel (label : List Char) : Option (List Char) := do
  let decoded ← if ['x', 'n', '-', '-'].isPrefixOf label then do
      let code := label.drop 4
      guard (isAscii code && code.getLast?.any (· != '-') && code.length ≤ maxDecoded)
      let decoded ← Punycode.decode code
      guard (decoded.all fun c => validSet.contains c && c != '.')
      guard (normalForm decoded = decoded)
      pure decoded
    else pure label
  guard (decoded.all fun c => !isForbidden c)
  guard (!decoded.head?.any markSet.contains)
  guard (joinersFit [] decoded)
  guard (isAscii decoded || decoded.length ≤ maxEncoded)
  pure decoded

/-- The labels of a domain name, if it is one. -/
def labels? (name : List Char) : Option (List (List Char)) := do
  let mapped ← mapText name
  let labels ← (splitAtEach '.' (normalForm mapped)).mapM readLabel
  guard (!labels.any (·.any rightToLeftSet.contains) || labels.all keepsDirection)
  pure labels

end Attest.Domain

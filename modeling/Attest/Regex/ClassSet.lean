import Attest.Regex.Basic
import Attest.Text.Age
import Attest.Text.CaseFold
import Attest.Text.Category
import Attest.Text.Property
import Attest.Text.Script
import Attest.Text.Segment

/-!
The characters that a class stands for, under the flags that hold where it is written. Without the flag for
Unicode a class knows ASCII only, and one that would go beyond it has no meaning.
-/

namespace Attest.Regex

/-- The flags that decide what a node matches. -/
structure Mode where
  ignoreCase : Bool
  multiLine : Bool
  dotMatchesNewline : Bool
  unicode : Bool
  carriageReturns : Bool
  deriving DecidableEq, Repr

namespace Mode

def start : Mode :=
  ⟨false, false, false, true, false⟩

def change (m : Mode) : Flag × Bool → Mode
  | (.ignoreCase, b) => { m with ignoreCase := b }
  | (.multiLine, b) => { m with multiLine := b }
  | (.dotMatchesNewline, b) => { m with dotMatchesNewline := b }
  | (.unicode, b) => { m with unicode := b }
  | (.carriageReturns, b) => { m with carriageReturns := b }
  | (.swapGreed, _) => m
  | (.verbose, _) => m

def apply (m : Mode) (changes : FlagChanges) : Mode :=
  changes.foldl change m

end Mode

/-! ### Properties -/

/-- The form in which names of properties are compared: small letters of ASCII without blanks, dashes and
underscores, and without `is` at the front. -/
def normalName (name : String) : String :=
  let bytes := name.toList
  let shorter := if (bytes.take 2).map Char.toLower = ['i', 's'] then bytes.drop 2 else bytes
  let kept := shorter.filter fun c => c.toNat < 128 && c != ' ' && c != '_' && c != '-'
  let small := kept.map Char.toLower
  -- `isc` is a name of its own and no property of characters
  if small = ['c'] ∧ shorter.length < bytes.length then "isc" else String.ofList small

/-- The set that a property query asks for. -/
def PropertyQuery.set? : PropertyQuery → Option CharSet
  | .name text =>
      let text := normalName text
      ((propertySet? text).or (categorySet? text)).or ((scriptCode? text).map scriptSet)
  | .value property text =>
      let text := normalName text
      match normalName property with
      | "gc" | "generalcategory" => categorySet? text
      | "sc" | "script" => (scriptCode? text).map scriptSet
      | "scx" | "scriptextensions" => (scriptCode? text).map scriptUseSet
      | "age" => ageSet? text
      | "gcb" | "graphemeclusterbreak" => graphemeSegmentation.set? text
      | "wb" | "wordbreak" => wordSegmentation.set? text
      | "sb" | "sentencebreak" => sentenceSegmentation.set? text
      | _ => none

/-! ### Classes -/

def digitSet : CharSet :=
  categorySet ["Nd"]

/-- Letters, marks, digits, connecting punctuation, and what joins letters. -/
def wordSet : CharSet :=
  (alphabeticSet.union (categorySet ["M", "Nd", "Pc"])).union joinControlSet

/-- The classes of ASCII that have a name. -/
def namedSet (name : String) : CharSet :=
  .ofSorted <| match name with
    | "alnum" => [(48, 57), (65, 90), (97, 122)]
    | "alpha" => [(65, 90), (97, 122)]
    | "ascii" => [(0, 127)]
    | "blank" => [(9, 9), (32, 32)]
    | "cntrl" => [(0, 31), (127, 127)]
    | "digit" => [(48, 57)]
    | "graph" => [(33, 126)]
    | "lower" => [(97, 122)]
    | "print" => [(32, 126)]
    | "punct" => [(33, 47), (58, 64), (91, 96), (123, 126)]
    | "space" => [(9, 13), (32, 32)]
    | "upper" => [(65, 90)]
    | "word" => [(48, 57), (65, 90), (95, 95), (97, 122)]
    | "xdigit" => [(48, 57), (65, 70), (97, 102)]
    | _ => []

def Shorthand.set (unicode : Bool) : Shorthand → CharSet
  | .digit => if unicode then digitSet else namedSet "digit"
  | .space => if unicode then whiteSpaceSet else namedSet "space"
  | .word => if unicode then wordSet else namedSet "word"

/-- A set together with the other cases of its members, if case is ignored. -/
def Mode.fold (m : Mode) (s : CharSet) : CharSet :=
  if !m.ignoreCase then s else if m.unicode then s.foldClosure else s.asciiFoldClosure

/-- The complement of a set, which goes beyond ASCII. -/
def Mode.negate? (m : Mode) (negated : Bool) (s : CharSet) : Option CharSet :=
  if !negated then some s else if m.unicode then some s.compl else none

/-- Whether a character may be written as it is. -/
def Mode.admitsLiteral (m : Mode) (l : Literal) : Bool :=
  m.unicode || l.char.toNat < 128 || !l.asByte

/-- Whether a character may be written as it is inside brackets. -/
def Mode.admitsInClass (m : Mode) (l : Literal) : Bool :=
  m.unicode || l.char.toNat < 128

mutual

def ClassNode.set? (m : Mode) : ClassNode → Option CharSet
  | .literal l => if m.admitsInClass l then some (.singleton l.char) else none
  | .range first last =>
      if m.admitsInClass first && m.admitsInClass last then
        some (.range first.char.toNat last.char.toNat)
      else none
  | .named name negated => m.negate? negated (m.fold (namedSet name))
  | .shorthand kind negated => m.negate? negated (kind.set m.unicode)
  | .property query negated => do
      guard m.unicode
      m.negate? negated (m.fold (← query.set?))
  | .bracket body negated => do m.negate? negated (m.fold (← body.set? m))
  | .union items => ClassNode.setOfList? m items
  | .operation op left right => do
      let left ← left.set? m
      let right ← right.set? m
      let (left, right) := (m.fold left, m.fold right)
      pure (match op with
        | .inter => left.inter right
        | .diff => left.diff right
        | .symmDiff => left.symmDiff right)
termination_by structural c => c

def ClassNode.setOfList? (m : Mode) : List ClassNode → Option CharSet
  | [] => some .empty
  | c :: cs => do
      let s ← c.set? m
      let rest ← setOfList? m cs
      pure (s.union rest)
termination_by structural cs => cs

end

end Attest.Regex

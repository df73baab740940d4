import Attest.Regex.Basic
import Attest.Regex.Scanner

/-!
What a backslash begins: a character that is written with its number or that would otherwise stand for something
else, a class, or an assertion.
-/

namespace Attest.Regex

inductive Escape
  | literal (literal : Literal)
  | charClass (body : ClassNode)
  | assertion (kind : Assertion)

namespace Escape

def isHexDigit (c : Char) : Bool :=
  c.isDigit || ('a' ≤ c && c ≤ 'f') || ('A' ≤ c && c ≤ 'F')

def hexValue (c : Char) : Nat :=
  if c.isDigit then c.toNat - '0'.toNat
  else if 'a' ≤ c then c.toNat - 'a'.toNat + 10
  else c.toNat - 'A'.toNat + 10

/-- The character with the given number in hexadecimal digits. -/
def charOfHex? (digits : List Char) : Option Char :=
  let code := digits.foldl (fun n c => 16 * n + hexValue c) 0
  if Nat.isValidChar code then some (Char.ofNat code) else none

/-- Exactly `n` hexadecimal digits. -/
def readHexDigits : Nat → Scanner → Option (List Char × Scanner)
  | 0, s => some ([], s)
  | n + 1, s =>
      match s.rest with
      | [] => none
      | c :: _ => do
          guard (isHexDigit c)
          let (cs, t) ← readHexDigits n s.advance
          pure (c :: cs, t)

/-- A number in braces, or with a fixed count of digits. -/
def readNumbered (count : Nat) (s : Scanner) : Option (Literal × Scanner) := do
  if s.rest.head? = some '{' then
    let (digits, t) := s.advance.takeSpaced isHexDigit
    guard (t.rest.head? = some '}' ∧ digits ≠ [])
    pure (⟨← charOfHex? digits, false⟩, t.advance)
  else
    let (digits, t) ← readHexDigits count s
    pure (⟨← charOfHex? digits, count = 2⟩, t)

/-- What stands before and behind the first occurrence of a separator. -/
def splitAtMark (mark : List Char) : List Char → Option (List Char × List Char)
  | [] => none
  | c :: cs =>
      if mark.isPrefixOf (c :: cs) then some ([], (c :: cs).drop mark.length)
      else (splitAtMark mark cs).map fun (before, behind) => (c :: before, behind)

def propertyQuery (text : List Char) : PropertyQuery :=
  match ["!=", ":", "="].findSome? fun mark => splitAtMark mark.toList text with
  | some (property, value) => .value (String.ofList property) (String.ofList value)
  | none => .name (String.ofList text)

/-- A property by its name in braces, or by a single letter. -/
def readProperty (s : Scanner) : Option (PropertyQuery × Scanner) :=
  match s.rest with
  | [] => none
  | '{' :: _ => do
      let (text, t) := s.advance.takeSpaced (· != '}')
      guard (t.rest.head? = some '}')
      pure (propertyQuery text, t.bump)
  | '\\' :: _ => none
  | c :: _ => some (.name (String.singleton c), s.advance)

/-- The assertions with a name in braces. What cannot be a name is left alone: it may be a count. -/
def readWordAssertion (s : Scanner) : Option (Assertion × Scanner) :=
  let isNameChar (c : Char) : Bool := c.isAlpha || c == '-'
  match s.rest with
  | '{' :: _ => do
      guard (s.advance.rest ≠ [])
      let (name, t) := s.advance.takeSpaced isNameChar
      if name = [] then pure (.wordBoundary, s)
      else
        guard (t.rest.head? = some '}')
        match String.ofList name with
        | "start" => pure (.wordStart, t.bump)
        | "end" => pure (.wordEnd, t.bump)
        | "start-half" => pure (.wordStartHalf, t.bump)
        | "end-half" => pure (.wordEndHalf, t.bump)
        | _ => none
  | _ => some (.wordBoundary, s)

/-- Any character of ASCII but letters, digits and the two angles stands for itself behind a backslash. -/
def isPlain (c : Char) : Bool :=
  c.toNat < 128 && !c.isAlphanum && c != '<' && c != '>'

/-- Reads what begins at a backslash. -/
def read (s : Scanner) : Option (Escape × Scanner) :=
  let s := s.bump
  let t := s.bump
  match s.rest with
  | [] => none
  | 'x' :: _ => (readNumbered 2 s.advance).map fun (l, u) => (.literal l, u)
  | 'u' :: _ => (readNumbered 4 s.advance).map fun (l, u) => (.literal l, u)
  | 'U' :: _ => (readNumbered 8 s.advance).map fun (l, u) => (.literal l, u)
  | 'p' :: _ => (readProperty s.advance).map fun (q, u) => (.charClass (.property q false), u)
  | 'P' :: _ => (readProperty s.advance).map fun (q, u) => (.charClass (.property q true), u)
  | 'd' :: _ => some (.charClass (.shorthand .digit false), t)
  | 'D' :: _ => some (.charClass (.shorthand .digit true), t)
  | 's' :: _ => some (.charClass (.shorthand .space false), t)
  | 'S' :: _ => some (.charClass (.shorthand .space true), t)
  | 'w' :: _ => some (.charClass (.shorthand .word false), t)
  | 'W' :: _ => some (.charClass (.shorthand .word true), t)
  | 'a' :: _ => some (.literal ⟨'\x07', false⟩, t)
  | 'f' :: _ => some (.literal ⟨'\x0C', false⟩, t)
  | 't' :: _ => some (.literal ⟨'\t', false⟩, t)
  | 'n' :: _ => some (.literal ⟨'\n', false⟩, t)
  | 'r' :: _ => some (.literal ⟨'\r', false⟩, t)
  | 'v' :: _ => some (.literal ⟨'\x0B', false⟩, t)
  | 'A' :: _ => some (.assertion .textStart, t)
  | 'z' :: _ => some (.assertion .textEnd, t)
  | 'B' :: _ => some (.assertion .noWordBoundary, t)
  | '<' :: _ => some (.assertion .wordStart, t)
  | '>' :: _ => some (.assertion .wordEnd, t)
  | 'b' :: _ => (readWordAssertion t).map fun (kind, u) => (.assertion kind, u)
  | c :: _ => if isPlain c then some (.literal ⟨c, false⟩, t) else none

end Escape

end Attest.Regex

import Attest.Regex.Escape
import Attest.Text.Category
import Attest.Text.Property

/-!
Reading a pattern. There is one reader for the inside of brackets and one for alternatives; each takes a bound
on its steps, for which the length of the pattern is enough, because every step passes a character.
-/

namespace Attest.Regex

/-! ### Classes in brackets -/

def classNames : List String :=
  ["alnum", "alpha", "ascii", "blank", "cntrl", "digit", "graph", "lower", "print", "punct", "space",
    "upper", "word", "xdigit"]

/-- A class by its name between `[:` and `:]`. -/
def readNamedClass? (s : Scanner) : Option (ClassNode × Scanner) := do
  let t ← s.past? "[:"
  guard (t.rest ≠ [])
  let negated := t.rest.head? = some '^'
  let t := if negated then t.bump else t
  let (name, t) := t.take (· != ':')
  let t ← t.past? ":]"
  let name := String.ofList name
  guard (name ∈ classNames)
  pure (.named name negated, t)

/-- A character or a class inside brackets. -/
def readClassAtom (s : Scanner) : Option (ClassNode × Scanner) :=
  match s.rest with
  | [] => none
  | '\\' :: _ => do
      match ← Escape.read s with
      | (.literal l, t) => pure (.literal l, t)
      | (.charClass c, t) => pure (c, t)
      | (.assertion _, _) => none
  | c :: _ => some (.literal ⟨c, false⟩, s.bump)

/-- An atom, or a range of characters. A dash stands for itself before a closing bracket and before another
dash. -/
def readClassRange (s : Scanner) : Option (ClassNode × Scanner) := do
  let (first, t) ← readClassAtom s
  let t := t.skip
  guard (t.rest ≠ [])
  if t.rest.head? ≠ some '-' ∨ t.peekSpaced = some ']' ∨ t.peekSpaced = some '-' then
    pure (first, t)
  else
    match first, ← readClassAtom t.advance with
    | .literal first, (.literal last, u) => do
        guard (first.char ≤ last.char)
        pure (.range first last, u)
    | _, _ => none

def readDashes (s : Scanner) : List ClassNode × Scanner :=
  let (dashes, t) := s.takeSpaced (· == '-')
  (dashes.map fun c => .literal ⟨c, false⟩, t)

/-- What an opening bracket begins: whether the class is negated, and the dashes or the closing bracket that stand
for themselves at its front. -/
def readBracketStart (s : Scanner) : Option (Bool × List ClassNode × Scanner) := do
  let s := s.advance
  let negated := s.rest.head? = some '^'
  let s := if negated then s.advance else s
  guard (s.rest ≠ [])
  let (dashes, s) := readDashes s
  guard (s.rest ≠ [])
  if dashes.isEmpty ∧ s.rest.head? = some ']' then
    let t := s.advance
    guard (t.rest ≠ [])
    pure (negated, [.literal ⟨']', false⟩], t)
  else pure (negated, dashes, s)

/-- A class of several items; one item needs no union. -/
def ClassNode.ofItems : List ClassNode → ClassNode
  | [item] => item
  | items => .union items

/-- Joins the items behind an operator to what stands before it. -/
def ClassNode.close (left : Option (SetOperation × ClassNode)) (items : List ClassNode) : ClassNode :=
  match left with
  | none => .ofItems items.reverse
  | some (op, c) => .operation op c (.ofItems items.reverse)

/-- Reads the inside of brackets up to the closing one. `left` is what stands before the last operator, `items`
what has been read since, in reverse. Operators group to the left. -/
def readClass : Nat → Option (SetOperation × ClassNode) → List ClassNode → Scanner →
    Option (ClassNode × Scanner)
  | 0, _, _, _ => none
  | fuel + 1, left, items, s =>
      let s := s.skip
      match s.rest with
      | [] => none
      | ']' :: _ => some (.close left items, s.bump)
      | '&' :: '&' :: _ => readClass fuel (some (.inter, .close left items)) [] (s.drop 2)
      | '-' :: '-' :: _ => readClass fuel (some (.diff, .close left items)) [] (s.drop 2)
      | '~' :: '~' :: _ => readClass fuel (some (.symmDiff, .close left items)) [] (s.drop 2)
      | '[' :: _ =>
          match readNamedClass? s with
          | some (item, t) => readClass fuel left (item :: items) t
          | none => do
              let (negated, start, t) ← readBracketStart s
              let (body, u) ← readClass fuel none start.reverse t
              readClass fuel left (.bracket body negated :: items) u
      | _ => do
          let (item, t) ← readClassRange s
          readClass fuel left (item :: items) t

/-- Reads the class that an opening bracket begins. -/
def readBracket (s : Scanner) : Option (ClassNode × Scanner) := do
  let (negated, start, t) ← readBracketStart s
  let (body, u) ← readClass (t.rest.length + 1) none start.reverse t
  pure (.bracket body negated, u)

/-! ### Groups -/

/-- What an opening parenthesis begins. -/
inductive Opening
  | directive (changes : FlagChanges)
  | group (captures : Bool) (changes : FlagChanges)

/-- The flags before the dash are set, those behind it cleared; no flag may occur twice, and a dash needs a flag
behind it. -/
def flagChanges? (letters : List Char) : Option FlagChanges := do
  let (on, off) := letters.span (· != '-')
  guard (letters.Nodup ∧ letters.getLast? ≠ some '-')
  let on ← on.mapM Flag.ofLetter?
  let off ← (off.drop 1).mapM Flag.ofLetter?
  pure (on.map (·, true) ++ off.map (·, false))

def isAlphabetic (c : Char) : Bool :=
  alphabeticSet.contains c

def numericSet : CharSet :=
  categorySet ["N"]

def isGroupNameChar (c : Char) : Bool :=
  c == '_' || c == '.' || c == '[' || c == ']' || isAlphabetic c || numericSet.contains c

/-- The name of a group up to the closing angle; no two groups may share one. -/
def readGroupName (s : Scanner) : Option Scanner := do
  let (name, t) := s.take isGroupNameChar
  guard (t.rest.head? = some '>')
  let first ← name.head?
  guard (first = '_' ∨ isAlphabetic first)
  let name := String.ofList name
  guard (name ∉ t.groupNames)
  pure { t.bump with groupNames := name :: t.groupNames }

def readOpening (s : Scanner) : Option (Opening × Scanner) := do
  let s := s.bump.skip
  guard (["?=", "?!", "?<=", "?<!"].all fun text => (s.past? text).isNone)
  match (s.past? "?P<").or (s.past? "?<"), s.past? "?" with
  | some t, _ => pure (.group true [], ← readGroupName t)
  | none, some t =>
      let (letters, t) := t.take fun c => c != ':' && c != ')'
      let changes ← flagChanges? letters
      match t.rest with
      | ':' :: _ => pure (.group false changes, t.bump)
      | ')' :: _ =>
          guard (changes ≠ [])
          pure (.directive changes, t.bump)
      | _ => none
  | none, none => pure (.group true [], s)

/-- The scanner inside the reach of flag changes. -/
def Scanner.withFlags (s : Scanner) (changes : FlagChanges) : Scanner :=
  { s with verbose := (changes.lookup .verbose).getD s.verbose }

/-! ### Counts -/

/-- A number below `2 ^ 32`, blanks around it. -/
def readCount (s : Scanner) : Option (Nat × Scanner) := do
  let (_, s) := s.take isBlank
  let (digits, s) := s.takeSpaced Char.isDigit
  let (_, s) := s.takeSpaced isBlank
  guard (digits ≠ [])
  let n := digits.foldl (fun n c => 10 * n + (c.toNat - '0'.toNat)) 0
  guard (n < Nat.pow 2 32)
  pure (n, s)

/-- What stands in braces behind the first number. -/
def readRangeEnd (least : Nat) (s : Scanner) : Option (RepetitionRange × Scanner) :=
  match s.rest with
  | ',' :: _ => do
      let s := s.advance
      guard (s.rest ≠ [])
      if s.rest.head? = some '}' then pure (.atLeast least, s)
      else do
        let (most, s) ← readCount s
        guard (least ≤ most)
        pure (.bounded least most, s)
  | _ => pure (.exactly least, s)

/-- The count in braces behind a node. -/
def readRange (s : Scanner) : Option (RepetitionRange × Scanner) := do
  let (least, s) ← readCount s.advance
  let (range, s) ← readRangeEnd least s
  guard (s.rest.head? = some '}')
  let s := s.advance
  pure (range, if s.rest.head? = some '?' then s.bump else s)

/-! ### Alternatives -/

/-- The scanner behind a sign, and behind the question mark that makes it prefer less. -/
def passSign (s : Scanner) : Scanner :=
  let s := s.bump
  if s.rest.head? = some '?' then s.bump else s

/-- What has been read of some alternatives: where they begin, those that are complete, where the current one begins, and
the nodes of it; both lists are in reverse. -/
structure Pending where
  start : Nat
  done : List Ast
  since : Nat
  items : List Ast

namespace Pending

def begin (place : Nat) : Pending :=
  ⟨place, [], place, []⟩

def push (p : Pending) (ast : Ast) : Pending :=
  { p with items := ast :: p.items }

/-- The current alternative, which ends at a place. -/
def concat (p : Pending) (stop : Nat) : Ast :=
  .ofConcat ⟨p.since, stop⟩ p.items.reverse

/-- The current alternative is complete, and behind the bar at a place begins another one. -/
def bar (p : Pending) (place : Nat) : Pending :=
  ⟨p.start, p.concat place :: p.done, place + 1, []⟩

/-- All alternatives, the last of which ends at a place. -/
def close (p : Pending) (stop : Nat) : Ast :=
  .ofAlternation ⟨p.start, stop⟩ (p.concat stop :: p.done).reverse

/-- Puts the last node under a quantifier that ends at a place. -/
def quantify (p : Pending) (kind : RepetitionKind) (stop : Nat) : Option Pending :=
  match p.items with
  | [] => none
  | .empty _ :: _ => none
  | .flags .. :: _ => none
  | ast :: before => some { p with items := .repetition ⟨ast.span.start, stop⟩ kind ast :: before }

end Pending

/-- Reads alternatives up to the parenthesis that closes them or to the end. -/
def readAlternatives : Nat → Pending → Scanner → Option (Ast × Scanner)
  | 0, _, _ => none
  | fuel + 1, p, s =>
      let s := s.skip
      let until' (t : Scanner) : Span := ⟨s.position, t.position⟩
      match s.rest with
      | [] => some (p.close s.position, s)
      | ')' :: _ => some (p.close s.position, s)
      | '|' :: _ => readAlternatives fuel (p.bar s.position) s.bump
      | '(' :: _ => do
          match ← readOpening s with
          | (.directive changes, t) =>
              readAlternatives fuel (p.push (.flags (until' t) changes)) (t.withFlags changes)
          | (.group captures changes, t) =>
              let (body, u) ← readAlternatives fuel (.begin t.position) (t.withFlags changes)
              guard (u.rest.head? = some ')')
              let u := { u.bump with verbose := s.verbose }
              readAlternatives fuel (p.push (.group (until' u) captures changes body)) u
      | '[' :: _ => do
          let (body, t) ← readBracket s
          readAlternatives fuel (p.push (.charClass (until' t) body)) t
      | '?' :: _ => do
          let t := passSign s
          readAlternatives fuel (← p.quantify .zeroOrOne t.position) t
      | '*' :: _ => do
          let t := passSign s
          readAlternatives fuel (← p.quantify .zeroOrMore t.position) t
      | '+' :: _ => do
          let t := passSign s
          readAlternatives fuel (← p.quantify .oneOrMore t.position) t
      | '{' :: _ => do
          let (range, t) ← readRange s
          readAlternatives fuel (← p.quantify (.range range) t.position) t
      | '\\' :: _ => do
          let (escape, t) ← Escape.read s
          let ast := match escape with
            | .literal l => .literal (until' t) l
            | .charClass c => .charClass (until' t) c
            | .assertion kind => .assertion (until' t) kind
          readAlternatives fuel (p.push ast) t
      | '.' :: _ => readAlternatives fuel (p.push (.dot (until' s.bump))) s.bump
      | '^' :: _ => readAlternatives fuel (p.push (.assertion (until' s.bump) .lineStart)) s.bump
      | '$' :: _ => readAlternatives fuel (p.push (.assertion (until' s.bump) .lineEnd)) s.bump
      | c :: _ => readAlternatives fuel (p.push (.literal (until' s.bump) ⟨c, false⟩)) s.bump

/-- How deep a pattern may be nested. -/
def deepest : Nat := 250

/-- The syntax tree of a pattern, if it is one. -/
def Ast.read? (pattern : String) : Option Ast := do
  let (ast, s) ← readAlternatives (pattern.length + 1) (.begin 0) (.ofString pattern)
  guard (s.rest = [])
  guard (ast.depth ≤ deepest)
  pure ast

end Attest.Regex

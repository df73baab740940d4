import Attest.Regex.ClassSet

/-!
Regular expressions as they match: the flags are gone, every class is a set, and every assertion says what
has to be true of the two characters between which it stands.
-/

namespace Attest.Regex

/-- What may be asked of a place between two characters. -/
inductive Look
  | textStart
  | textEnd
  /-- Behind a line feed or at the start. -/
  | lineStart
  /-- Before a line feed or at the end. -/
  | lineEnd
  /-- Likewise where a carriage return ends a line too, and one with a line feed behind it ends a single line. -/
  | anyLineStart
  | anyLineEnd
  | wordBoundary (unicode : Bool)
  | noWordBoundary (unicode : Bool)
  | wordStart (unicode : Bool)
  | wordEnd (unicode : Bool)
  | wordStartHalf (unicode : Bool)
  | wordEndHalf (unicode : Bool)
  deriving DecidableEq, Repr

inductive Expr
  | empty
  | chars (set : CharSet)
  | look (look : Look)
  | capture (body : Expr)
  | sequence (items : List Expr)
  | choice (branches : List Expr)
  | repetition (least : Nat) (most : Option Nat) (operand : Expr)
  deriving Repr

def isWordChar (unicode : Bool) (c : Option Char) : Bool :=
  match c with
  | none => false
  | some c => if unicode then wordSet.contains c else (namedSet "word").contains c

/-- Whether a place between two characters is as asked; there is none before the start and behind the end. -/
def Look.holds (before behind : Option Char) : Look → Bool
  | .textStart => before.isNone
  | .textEnd => behind.isNone
  | .lineStart => before.all (· == '\n')
  | .lineEnd => behind.all (· == '\n')
  | .anyLineStart => before.all fun c => c == '\n' || (c == '\r' && behind != some '\n')
  | .anyLineEnd => behind.all fun c => c == '\r' || (c == '\n' && before != some '\r')
  | .wordBoundary u => isWordChar u before != isWordChar u behind
  | .noWordBoundary u => isWordChar u before == isWordChar u behind
  | .wordStart u => !isWordChar u before && isWordChar u behind
  | .wordEnd u => isWordChar u before && !isWordChar u behind
  | .wordStartHalf u => !isWordChar u before
  | .wordEndHalf u => !isWordChar u behind

def Assertion.look (m : Mode) : Assertion → Look
  | .lineStart =>
      if !m.multiLine then .textStart else if m.carriageReturns then .anyLineStart else .lineStart
  | .lineEnd => if !m.multiLine then .textEnd else if m.carriageReturns then .anyLineEnd else .lineEnd
  | .textStart => .textStart
  | .textEnd => .textEnd
  | .wordBoundary => .wordBoundary m.unicode
  | .noWordBoundary => .noWordBoundary m.unicode
  | .wordStart => .wordStart m.unicode
  | .wordEnd => .wordEnd m.unicode
  | .wordStartHalf => .wordStartHalf m.unicode
  | .wordEndHalf => .wordEndHalf m.unicode

/-- The characters that a dot matches. -/
def Mode.dotSet (m : Mode) : CharSet :=
  if m.dotMatchesNewline then .full
  else if m.carriageReturns then (CharSet.ofSorted [(10, 10), (13, 13)]).compl
  else (CharSet.range 10 10).compl

namespace Expr

mutual

/-- Whether only the empty text can match. -/
def isBlank : Expr → Bool
  | .empty => true
  | .chars _ => false
  | .look _ => true
  | .capture body => body.isBlank
  | .sequence items => areBlank items
  | .choice branches => areBlank branches
  | .repetition _ most operand => most = some 0 || operand.isBlank
termination_by structural e => e

def areBlank : List Expr → Bool
  | [] => true
  | e :: es => e.isBlank && areBlank es
termination_by structural es => es

end

/-- A repetition without needless rounds: whatever holds of a place once holds of it any number of times. -/
def repeated (least : Nat) (most : Option Nat) (operand : Expr) : Expr :=
  let (least, most) := if operand.isBlank then (min least 1, some (min (most.getD 1) 1)) else (least, most)
  match least, most with
  | 0, some 0 => .empty
  | 1, some 1 => operand
  | _, _ => .repetition least most operand

/-- A choice; one between single characters is a set of them. -/
def ofBranches : List Expr → Expr
  | [e] => e
  | branches =>
      match branches.mapM fun
        | .chars s => some s
        | _ => none with
      | some sets => .chars (sets.foldl .union .empty)
      | none => .choice branches

def ofItems : List Expr → Expr
  | [] => .empty
  | [e] => e
  | items => .sequence items

end Expr

/-- How often a repetition goes round, at least and at most. -/
def RepetitionKind.bounds : RepetitionKind → Nat × Option Nat
  | .zeroOrOne => (0, some 1)
  | .zeroOrMore => (0, none)
  | .oneOrMore => (1, none)
  | .range (.exactly n) => (n, some n)
  | .range (.atLeast least) => (least, none)
  | .range (.bounded least most) => (least, some most)

mutual

/-- The expression of a syntax tree together with the flags that hold behind it. A directive changes the flags up to the
end of its group, also for later alternatives. -/
def Ast.expr? (m : Mode) : Ast → Option (Expr × Mode)
  | .empty _ => some (.empty, m)
  | .flags _ changes => some (.empty, m.apply changes)
  | .literal _ l => do
      guard (m.admitsLiteral l)
      let s := CharSet.singleton l.char
      pure (.chars (m.fold s), m)
  | .dot _ => do
      guard m.unicode
      pure (.chars m.dotSet, m)
  | .assertion _ kind => some (.look (kind.look m), m)
  | .charClass _ body => do pure (.chars (← body.set? m), m)
  | .repetition _ kind operand => do
      let (e, m) ← operand.expr? m
      pure (.repeated kind.bounds.1 kind.bounds.2 e, m)
  | .group _ captures changes body => do
      let (e, _) ← body.expr? (m.apply changes)
      pure (if captures then .capture e else e, m)
  | .alternation _ asts => do
      let (es, m) ← Ast.exprs? m asts
      pure (.ofBranches es, m)
  | .concat _ asts => do
      let (es, m) ← Ast.exprs? m asts
      pure (.ofItems es, m)
termination_by structural ast => ast

/-- The expressions of trees of which each begins with the flags that hold behind the one before it. -/
def Ast.exprs? (m : Mode) : List Ast → Option (List Expr × Mode)
  | [] => some ([], m)
  | ast :: asts => do
      let (e, m) ← ast.expr? m
      let (es, m) ← Ast.exprs? m asts
      pure (e :: es, m)
termination_by structural asts => asts

end

/-- The expression of a whole pattern; none when a class in it has no meaning. -/
def Ast.wholeExpr? (ast : Ast) : Option Expr :=
  (ast.expr? .start).map (·.1)

end Attest.Regex

import Attest.Regex.Basic

/-!
The outline of a pattern: a tree that keeps only what decides whether matching may become slow, namely groups,
quantifiers, wildcards and classes, and for every piece the text that it was written with.
-/

namespace Attest.Pattern

structure Quantifier where
  least : Nat
  most : Option Nat
  deriving DecidableEq, Repr

/-- More than one round is possible. -/
def Quantifier.repeats (q : Quantifier) : Bool :=
  q.most.all (1 < ·)

def Quantifier.unbounded (q : Quantifier) : Bool :=
  q.most.isNone

inductive Leaf
  | literal
  | charClass
  | wildcard
  /-- What takes no character: assertions and directives. -/
  | anchor
  deriving DecidableEq, Repr

/-- How often a piece applies, its text without the quantifier, and its whole text. -/
structure Label where
  quantifier : Option Quantifier
  bareText : String
  text : String
  deriving DecidableEq, Repr

inductive Piece
  | leaf (kind : Leaf) (label : Label)
  | group (branches : List (List Piece)) (label : Label)
  deriving Repr

abbrev Outline := List (List Piece)

namespace Piece

def label : Piece → Label
  | .leaf _ label => label
  | .group _ label => label

def withLabel : Piece → Label → Piece
  | .leaf kind _, label => .leaf kind label
  | .group branches _, label => .group branches label

def quantifier (p : Piece) : Option Quantifier :=
  p.label.quantifier

def repeats (p : Piece) : Bool :=
  p.quantifier.any Quantifier.repeats

def unbounded (p : Piece) : Bool :=
  p.quantifier.any Quantifier.unbounded

def isAnchor : Piece → Bool
  | .leaf .anchor _ => true
  | _ => false

/-- The leaf that a piece amounts to, looking through groups that hold nothing but one piece without a
quantifier. -/
def core : Piece → Option Leaf
  | .leaf kind _ => some kind
  | .group [[only]] _ => if only.quantifier.isNone then only.core else none
  | .group _ _ => none

/-- Puts a piece under a quantifier. A piece that has one already becomes a group first, so that neither is
lost. -/
def quantify (p : Piece) (q : Quantifier) (text : String) : Piece :=
  if p.quantifier.isSome then .group [[p]] ⟨some q, p.label.text, text⟩
  else p.withLabel ⟨some q, p.label.bareText, text⟩

end Piece

end Attest.Pattern

namespace Attest.Regex

open Pattern

/-- The characters of a part of a pattern. -/
def Span.text (span : Span) (pattern : Array Char) : String :=
  String.ofList (pattern.extract span.start span.stop).toList

def RepetitionKind.quantifier : RepetitionKind → Quantifier
  | .zeroOrOne => ⟨0, some 1⟩
  | .zeroOrMore => ⟨0, none⟩
  | .oneOrMore => ⟨1, none⟩
  | .range (.exactly n) => ⟨n, some n⟩
  | .range (.atLeast least) => ⟨least, none⟩
  | .range (.bounded least most) => ⟨least, some most⟩

mutual

/-- The alternatives of a syntax tree. -/
def Ast.alternatives (pattern : Array Char) : Ast → List (List Piece)
  | .alternation _ asts => asts.map (Ast.branch pattern)
  | other => [other.branch pattern]
termination_by ast => 3 * sizeOf ast + 2
decreasing_by
  · have := List.sizeOf_lt_of_mem ‹_›
    simp only [Ast.alternation.sizeOf_spec]
    omega
  · omega

/-- The pieces of an alternative. -/
def Ast.branch (pattern : Array Char) : Ast → List Piece
  | .empty _ => []
  | .concat _ asts => asts.flatMap (Ast.branch pattern)
  | other => [other.piece pattern]
termination_by ast => 3 * sizeOf ast + 1
decreasing_by
  · have := List.sizeOf_lt_of_mem ‹_›
    simp only [Ast.concat.sizeOf_spec]
    omega
  · omega

def Ast.piece (pattern : Array Char) : Ast → Piece
  | .repetition span kind operand => (operand.piece pattern).quantify kind.quantifier (span.text pattern)
  | .group span _ _ body => .group (body.alternatives pattern) ⟨none, span.text pattern, span.text pattern⟩
  -- For nodes that are joined this is a group of their own alternatives, written out so that the recursion is on what
  -- they consist of.
  | .alternation span asts =>
      .group (asts.map (Ast.branch pattern)) ⟨none, span.text pattern, span.text pattern⟩
  | .concat span asts =>
      .group [asts.flatMap (Ast.branch pattern)] ⟨none, span.text pattern, span.text pattern⟩
  | .dot span => .leaf .wildcard ⟨none, span.text pattern, span.text pattern⟩
  | .literal span _ => .leaf .literal ⟨none, span.text pattern, span.text pattern⟩
  | .charClass span _ => .leaf .charClass ⟨none, span.text pattern, span.text pattern⟩
  | .empty span => .leaf .anchor ⟨none, span.text pattern, span.text pattern⟩
  | .flags span _ => .leaf .anchor ⟨none, span.text pattern, span.text pattern⟩
  | .assertion span _ => .leaf .anchor ⟨none, span.text pattern, span.text pattern⟩
termination_by ast => 3 * sizeOf ast
decreasing_by
  · simp only [Ast.repetition.sizeOf_spec]
    omega
  · simp only [Ast.group.sizeOf_spec]
    omega
  · have := List.sizeOf_lt_of_mem ‹_›
    simp only [Ast.alternation.sizeOf_spec]
    omega
  · have := List.sizeOf_lt_of_mem ‹_›
    simp only [Ast.concat.sizeOf_spec]
    omega

end

/-- The outline of a syntax tree that was read from a pattern. -/
def Ast.outline (ast : Ast) (pattern : String) : Outline :=
  ast.alternatives pattern.toList.toArray

end Attest.Regex

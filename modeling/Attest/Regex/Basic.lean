import Attest.Text.CharSet

/-!
Regular expressions as they are written: the syntax tree of a pattern, in which every node knows the part of the pattern
that it was read from.
-/

namespace Attest.Regex

/-- A part of a pattern by the positions of its characters, the one behind the last included. -/
structure Span where
  start : Nat
  stop : Nat
  deriving DecidableEq, Repr

inductive Flag
  | ignoreCase
  | multiLine
  | dotMatchesNewline
  | swapGreed
  | unicode
  | carriageReturns
  | verbose
  deriving DecidableEq, Repr

def Flag.ofLetter? : Char → Option Flag
  | 'i' => some .ignoreCase
  | 'm' => some .multiLine
  | 's' => some .dotMatchesNewline
  | 'U' => some .swapGreed
  | 'u' => some .unicode
  | 'R' => some .carriageReturns
  | 'x' => some .verbose
  | _ => none

/-- Flags that a group or a directive sets or clears. -/
abbrev FlagChanges := List (Flag × Bool)

/-- A single character; `asByte` when it is written as a backslash, an `x` and two digits. -/
structure Literal where
  char : Char
  asByte : Bool
  deriving DecidableEq, Repr

/-- The classes with a letter of their own. -/
inductive Shorthand
  | digit
  | space
  | word
  deriving DecidableEq, Repr

inductive Assertion
  | lineStart
  | lineEnd
  | textStart
  | textEnd
  | wordBoundary
  | noWordBoundary
  | wordStart
  | wordEnd
  | wordStartHalf
  | wordEndHalf
  deriving DecidableEq, Repr

/-- The content of the braces behind a backslash and a `p`. -/
inductive PropertyQuery
  | name (name : String)
  | value (property value : String)
  deriving DecidableEq, Repr

inductive SetOperation
  | inter
  | diff
  | symmDiff
  deriving DecidableEq, Repr

inductive ClassNode
  | literal (literal : Literal)
  | range (first last : Literal)
  | named (name : String) (negated : Bool)
  | shorthand (kind : Shorthand) (negated : Bool)
  | property (query : PropertyQuery) (negated : Bool)
  | bracket (body : ClassNode) (negated : Bool)
  | union (items : List ClassNode)
  | operation (op : SetOperation) (left right : ClassNode)
  deriving Repr

inductive RepetitionRange
  | exactly (n : Nat)
  | atLeast (least : Nat)
  | bounded (least most : Nat)
  deriving DecidableEq, Repr

inductive RepetitionKind
  | zeroOrOne
  | zeroOrMore
  | oneOrMore
  | range (range : RepetitionRange)
  deriving DecidableEq, Repr

/-- The syntax tree of a pattern. A concatenation and an alternation have at least two members if they were read from a
pattern; where nothing stands, there is an empty node. -/
inductive Ast
  | empty (span : Span)
  | flags (span : Span) (changes : FlagChanges)
  | literal (span : Span) (literal : Literal)
  | dot (span : Span)
  | assertion (span : Span) (kind : Assertion)
  | charClass (span : Span) (body : ClassNode)
  | repetition (span : Span) (kind : RepetitionKind) (operand : Ast)
  | group (span : Span) (captures : Bool) (changes : FlagChanges) (body : Ast)
  | alternation (span : Span) (asts : List Ast)
  | concat (span : Span) (asts : List Ast)
  deriving Repr

namespace Ast

def span : Ast → Span
  | .empty span => span
  | .flags span _ => span
  | .literal span _ => span
  | .dot span => span
  | .assertion span _ => span
  | .charClass span _ => span
  | .repetition span .. => span
  | .group span .. => span
  | .alternation span _ => span
  | .concat span _ => span

/-- What stands in an alternative; one member needs no concatenation. -/
def ofConcat (span : Span) : List Ast → Ast
  | [] => .empty span
  | [ast] => ast
  | asts => .concat span asts

/-- Several alternatives; one needs no alternation. -/
def ofAlternation (span : Span) : List Ast → Ast
  | [] => .empty span
  | [ast] => ast
  | asts => .alternation span asts

end Ast

/-! ### Depth -/

mutual

/-- How deep a class is nested: brackets, unions of several items and operations count one each. -/
def ClassNode.depth : ClassNode → Nat
  | .bracket body _ => body.depth + 1
  | .union items => ClassNode.depthOfList items + 1
  | .operation _ left right => max left.depth right.depth + 1
  | _ => 0
termination_by structural c => c

def ClassNode.depthOfList : List ClassNode → Nat
  | [] => 0
  | c :: cs => max c.depth (depthOfList cs)
termination_by structural cs => cs

end

mutual

/-- How deep a tree is nested: repetitions, groups, bracketed classes, concatenations and alternations count one each. -/
def Ast.depth : Ast → Nat
  | .charClass _ body => body.depth
  | .repetition _ _ operand => operand.depth + 1
  | .group _ _ _ body => body.depth + 1
  | .alternation _ asts => Ast.depthOfList asts + 1
  | .concat _ asts => Ast.depthOfList asts + 1
  | _ => 0
termination_by structural ast => ast

def Ast.depthOfList : List Ast → Nat
  | [] => 0
  | ast :: asts => max ast.depth (depthOfList asts)
termination_by structural asts => asts

end

end Attest.Regex

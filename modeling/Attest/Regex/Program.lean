import Attest.Regex.Size
import Attest.Regex.Reader

/-!
Matching. An expression is laid out as a list of instructions, and a text is searched by following all ways
through them at once, one character after the other, so that the work is bounded by the product of both
lengths.
-/

namespace Attest.Regex

/-- An instruction; the targets of jumps are relative to it. What does not jump goes on behind itself. -/
inductive Instruction
  | take (set : CharSet)
  | look (look : Look)
  | jump (target : Int)
  | fork (first second : Int)
  deriving Repr

/-- The instructions of a part, repeated. -/
def copies (code : List Instruction) : Nat → List Instruction → List Instruction
  | 0, rest => rest
  | n + 1, rest => code ++ copies code n rest

/-- A part that may be left out before `rest`, at most so many times. -/
def optionalCopies (code : List Instruction) : Nat → List Instruction
  | 0 => []
  | n + 1 => .fork 1 (code.length + 1) :: code ++ optionalCopies code n

mutual

/-- The instructions that match an expression and go on behind themselves. -/
def Expr.code : Expr → List Instruction
  | .empty => []
  | .chars s => [.take s]
  | .look l => [.look l]
  | .capture body => body.code
  | .sequence items => sequenceCode items
  | .choice branches => choiceCode branches
  | .repetition least none operand =>
      let code := operand.code
      copies code least
        (.fork 1 (code.length + 2) :: code ++ [.jump (-(code.length + 1 : Int))])
  | .repetition least (some most) operand =>
      let code := operand.code
      copies code least (optionalCopies code (most - least))
termination_by structural e => e

def sequenceCode : List Expr → List Instruction
  | [] => []
  | e :: es => e.code ++ sequenceCode es
termination_by structural es => es

def choiceCode : List Expr → List Instruction
  | [] => [.take .empty]
  | e :: es =>
      let code := e.code
      let others := choiceCode es
      .fork 1 (code.length + 2) :: code ++ .jump (others.length + 1) :: others
termination_by structural es => es

end

/-- The instructions of an expression; a way that comes behind the last one has found a match. -/
structure Program where
  code : Array Instruction

namespace Program

def ofExpr (e : Expr) : Program :=
  ⟨e.code.toArray⟩

/-- What can be reached at one place of a text: the instructions that wait for a character, and whether a match
ends here. `seen` holds for every instruction the last place at which it was reached. -/
structure Front where
  waiting : List (Nat × CharSet)
  matched : Bool
  seen : Array Nat

/-- Follows the ways from the given instructions as far as they need no character. -/
def follow (p : Program) (before behind : Option Char) (place : Nat) : Nat → List Nat → Front → Front
  | 0, _, front => front
  | _, [], front => front
  | fuel + 1, pc :: rest, front =>
      match p.code[pc]? with
      | none => { front with matched := true }
      | some instruction =>
          if front.seen.getD pc 0 = place then follow p before behind place fuel rest front
          else
            let front := { front with seen := front.seen.setIfInBounds pc place }
            match instruction with
            | .take s =>
                follow p before behind place fuel rest { front with waiting := (pc, s) :: front.waiting }
            | .look l =>
                let rest := if l.holds before behind then (pc + 1) :: rest else rest
                follow p before behind place fuel rest front
            | .jump target => follow p before behind place fuel ((pc + target).toNat :: rest) front
            | .fork first second =>
                follow p before behind place fuel ((pc + first).toNat :: (pc + second).toNat :: rest) front

/-- Searches a match that begins at one of the `pending` instructions or at any later place. -/
def searchFrom (p : Program) (pending : List Nat) (seen : Array Nat) (place : Nat)
    (before : Option Char) : List Char → Bool
  | [] => (p.follow before none place (2 * p.code.size + pending.length + 2) (0 :: pending)
      ⟨[], false, seen⟩).matched
  | c :: cs =>
      let front := p.follow before (some c) place (2 * p.code.size + pending.length + 2) (0 :: pending)
        ⟨[], false, seen⟩
      if front.matched then true
      else
        let taken := front.waiting.filterMap fun (pc, s) => if s.contains c then some (pc + 1) else none
        searchFrom p taken front.seen (place + 1) (some c) cs

/-- Whether a part of the text matches. -/
def matchesIn (p : Program) (text : String) : Bool :=
  p.searchFrom [] (Array.replicate p.code.size 0) 1 none text.toList

end Program

end Attest.Regex

namespace Attest

/-- A regular expression that can be matched, with the pattern that it was read from. -/
structure Regex where
  pattern : String
  program : Regex.Program

namespace Regex

/-- The regular expression of a syntax tree that was read from a pattern. -/
def ofAst? (pattern : String) (ast : Ast) : Option Regex := do
  let e ← ast.wholeExpr?
  guard (e.size ≤ roomLimit)
  pure ⟨pattern, .ofExpr e⟩

def ofPattern? (pattern : String) : Option Regex := do
  ofAst? pattern (← Ast.read? pattern)

/-- Whether a part of the text matches. -/
def matchesIn (r : Regex) (text : String) : Bool :=
  r.program.matchesIn text

end Regex

end Attest

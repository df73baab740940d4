import Attest.Regex.Expr

/-!
How much room the automaton of an expression takes. The automaton reads bytes, so a set of characters costs one
state for every way to begin a character of the set, and a counted repetition repeats all states of its
operand. Expressions whose automaton would be too large are refused, which also bounds the work of matching.
-/

namespace Attest.Regex

/-! ### Characters as bytes -/

/-- Cuts a range of code points into pieces whose encodings have one length and differ, from some byte on, in all
ways that are possible there. -/
def encodingPieces : Nat → Nat × Nat → List (Nat × Nat)
  | 0, r => [r]
  | fuel + 1, (first, last) =>
      let cuts := [0x80, 0x800, 0x10000] ++
        if last ≤ 0x7F then [] else [1, 2, 3].flatMap fun i =>
          let block := Nat.pow 2 (6 * i)
          if first / block = last / block then []
          else if first % block ≠ 0 then [(first / block + 1) * block]
          else if last % block + 1 ≠ block then [last / block * block]
          else []
      match cuts.find? fun cut => first < cut ∧ cut ≤ last with
      | some cut => encodingPieces fuel (first, cut - 1) ++ encodingPieces fuel (cut, last)
      | none => [(first, last)]

def encodedLength (code : Nat) : Nat :=
  if code ≤ 0x7F then 1 else if code ≤ 0x7FF then 2 else if code ≤ 0xFFFF then 3 else 4

/-- The bytes of a code point, the last six bits of each byte behind the first. -/
def encodedBytes (code : Nat) : List Nat :=
  let n := encodedLength code
  (List.range n).map fun i =>
    if i = 0 then code / Nat.pow 64 (n - 1) + 256 * n else code / Nat.pow 64 (n - 1 - i) % 64

/-- The ranges of bytes that a piece takes one after the other. -/
def byteRanges (piece : Nat × Nat) : List (Nat × Nat) :=
  (encodedBytes piece.1).zip (encodedBytes piece.2)

def commonPrefix : List (Nat × Nat) → List (Nat × Nat) → Nat
  | a :: as, b :: bs => if a = b then commonPrefix as bs + 1 else 0
  | _, _ => 0

/-- The states that ordered sequences of byte ranges need when equal beginnings share theirs. -/
def countStates : List (Nat × Nat) → List (List (Nat × Nat)) → Nat
  | _, [] => 0
  | before, s :: rest => s.length - commonPrefix before s + countStates s rest

/-! ### Room -/

/-- The bytes that a state takes. -/
def stateSize : Nat := 32

/-- The bytes that a transition to another state takes. -/
def branchSize : Nat := 4

def charsSize (s : CharSet) : Nat :=
  match s.changes.toList, s.changes.back? with
  | [], _ => stateSize
  | [first, next], _ =>
      if next = first + 1 then stateSize * encodedLength first else manySize
  | _, some last =>
      if last ≤ 128 ∧ s.changes.size % 2 = 0 then 2 * stateSize + 4 * s.changes.size else manySize
  | _, none => manySize
where
  manySize : Nat :=
    let scalars := s.diff (.range 0xD800 0xDFFF)
    let sequences := (scalars.ranges.flatMap (encodingPieces 64)).map byteRanges
    2 * stateSize + branchSize * sequences.length + stateSize * countStates [] sequences

mutual

def Expr.size : Expr → Nat
  | .empty => stateSize
  | .chars s => charsSize s
  | .look _ => stateSize
  | .capture body => 2 * stateSize + body.size
  | .sequence items => sizeOfList items
  | .choice branches => 2 * stateSize + branchSize * branches.length + sizeOfList branches
  | .repetition least none operand =>
      max least 1 * operand.size + stateSize + 2 * branchSize
  | .repetition least (some most) operand =>
      most * operand.size + stateSize + (most - least) * (stateSize + 2 * branchSize)
termination_by structural e => e

def sizeOfList : List Expr → Nat
  | [] => 0
  | e :: es => e.size + sizeOfList es
termination_by structural es => es

end

/-- The room that an automaton may take, ten times `2 ^ 20` bytes. -/
def roomLimit : Nat := 10 * Nat.pow 2 20

end Attest.Regex

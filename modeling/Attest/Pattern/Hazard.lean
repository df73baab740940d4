import Attest.Pattern.Outline

/-!
What makes a pattern hazardous. An engine that backtracks may need exponential time where a repeated group ends
in something repeated, and too much time where two wildcards are unbounded or where alternatives of a repeated
group begin alike. Patterns of these kinds are refused, others that only come close to them are
accepted with a warning.
-/

namespace Attest.Pattern

inductive Rejection
  | tooLong (length limit : Nat)
  | malformed
  | nestedQuantifiers (text : String)
  | manyWildcards (texts : List String)
  | overlappingAlternatives (text shared : String)
  deriving DecidableEq, Repr

def Rejection.message : Rejection → String
  | .tooLong length limit => s!"pattern is {length} characters long, exceeding the limit of {limit}"
  | .malformed => "invalid pattern syntax"
  | .nestedQuantifiers text => s!"nested quantifiers in `{text}` can cause catastrophic backtracking"
  | .manyWildcards texts =>
      let listed := ", ".intercalate texts
      s!"{texts.length} unbounded wildcards ({listed}) can cause superlinear matching"
  | .overlappingAlternatives text shared =>
      s!"quantified alternation `{text}` has branches sharing the prefix `{shared}`"

inductive Warning
  | wildcard (text : String)
  | charClass (text : String)
  deriving DecidableEq, Repr

def Warning.message : Warning → String
  | .wildcard text => s!"unbounded wildcard `{text}` may scan the whole input"
  | .charClass text => s!"quantified character class `{text}` is accepted but flagged"

mutual

/-- The piece repeats, or it is a group one of whose alternatives ends in a piece that does. -/
def Piece.endsRepeated : Piece → Bool
  | .leaf _ label => label.quantifier.any Quantifier.repeats
  | .group branches label => label.quantifier.any Quantifier.repeats || anyEndsRepeated branches
termination_by structural p => p

def anyEndsRepeated : List (List Piece) → Bool
  | [] => false
  | b :: bs => branchEndsRepeated b || anyEndsRepeated bs
termination_by structural bs => bs

/-- The last piece that is no anchor ends in something repeated. -/
def branchEndsRepeated : List Piece → Bool
  | [] => false
  | p :: ps => if ps.all Piece.isAnchor then !p.isAnchor && p.endsRepeated else branchEndsRepeated ps
termination_by structural ps => ps

end

/-- The first of some texts that occurs again behind itself. -/
def firstRepeated : List String → Option String
  | [] => none
  | t :: ts => if t ∈ ts then some t else firstRepeated ts

/-- What two alternatives begin with. -/
def sharedStart (branches : List (List Piece)) : Option String :=
  firstRepeated (branches.filterMap fun b => b.head?.map (·.label.bareText))

/-- What a walk over an outline has found so far: the first group with nested quantifiers, the first whose alternatives
overlap and what they share, and all unbounded wildcards and quantified classes. -/
structure Findings where
  nested : Option Piece
  overlap : Option (Piece × String)
  wildcards : List Piece
  classes : List Piece
  deriving Repr

namespace Findings

def none : Findings :=
  ⟨.none, .none, [], []⟩

def noteCore (found : Findings) (p : Piece) : Findings :=
  match p.core with
  | some .wildcard => if p.unbounded then { found with wildcards := found.wildcards ++ [p] } else found
  | some .charClass => if p.quantifier.isSome then { found with classes := found.classes ++ [p] } else found
  | _ => found

def noteNested (found : Findings) (p : Piece) (branches : List (List Piece)) : Findings :=
  if found.nested.isNone && anyEndsRepeated branches then { found with nested := some p } else found

def noteOverlap (found : Findings) (p : Piece) (branches : List (List Piece)) : Findings :=
  match found.overlap, sharedStart branches with
  | .none, some shared => { found with overlap := some (p, shared) }
  | _, _ => found

/-- Notes what a piece is, the pieces inside it apart. -/
def note (found : Findings) (p : Piece) : Findings :=
  match p with
  | .leaf _ _ => found.noteCore p
  | .group branches _ =>
      if p.repeats then ((found.noteCore p).noteNested p branches).noteOverlap p branches else found.noteCore p

end Findings

mutual

/-- Notes a piece, and then the pieces inside it from left to right. -/
def Piece.walk : Piece → Findings → Findings
  | .leaf kind label, found => found.note (.leaf kind label)
  | .group branches label, found => walkBranches branches (found.note (.group branches label))
termination_by structural p => p

def walkBranches : List (List Piece) → Findings → Findings
  | [], found => found
  | b :: bs, found => walkBranches bs (walkBranch b found)
termination_by structural bs => bs

def walkBranch : List Piece → Findings → Findings
  | [], found => found
  | p :: ps, found => walkBranch ps (p.walk found)
termination_by structural ps => ps

end

/-- What a pattern is warned of that has no hazards: one unbounded wildcard, or else one quantified class. -/
def warningOf (wildcards classes : List Piece) : Option Warning :=
  match wildcards, classes with
  | [p], _ => some (.wildcard p.label.text)
  | [], [p] => some (.charClass p.label.text)
  | _, _ => none

/-- The verdict on an outline. -/
def inspect (outline : Outline) : Except Rejection (Option Warning) :=
  let found := walkBranches outline .none
  match found.nested with
  | some p => .error (.nestedQuantifiers p.label.text)
  | none =>
      if 2 ≤ found.wildcards.length then .error (.manyWildcards (found.wildcards.map (·.label.text)))
      else match found.overlap with
        | some (p, shared) => .error (.overlappingAlternatives p.label.text shared)
        | none => .ok (warningOf found.wildcards found.classes)

end Attest.Pattern

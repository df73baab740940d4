import Attest.Pattern.Hazard

/-!
What the walk over an outline finds. The walk goes through all pieces from left to right, a group before what is inside
it, and notes each by itself, so what it has found in the end is told by the list of all pieces: the first of a kind,
or all of a kind.
-/

namespace Attest.Pattern

mutual

/-- A piece with all pieces inside it, from left to right. -/
def Piece.all : Piece → List Piece
  | .leaf kind label => [.leaf kind label]
  | .group branches label => .group branches label :: allOfBranches branches
termination_by structural p => p

/-- All pieces of alternatives, at every depth. -/
def allOfBranches : List (List Piece) → List Piece
  | [] => []
  | b :: bs => allOfBranch b ++ allOfBranches bs
termination_by structural bs => bs

def allOfBranch : List Piece → List Piece
  | [] => []
  | p :: ps => p.all ++ allOfBranch ps
termination_by structural ps => ps

end

theorem allOfBranch_append (ps qs : List Piece) : allOfBranch (ps ++ qs) = allOfBranch ps ++ allOfBranch qs := by
  induction ps with
  | nil => rfl
  | cons p ps ih => rw [List.cons_append, allOfBranch, allOfBranch, ih, List.append_assoc]

theorem allOfBranches_append (bs cs : Outline) : allOfBranches (bs ++ cs) = allOfBranches bs ++ allOfBranches cs := by
  induction bs with
  | nil => rfl
  | cons b bs ih => rw [List.cons_append, allOfBranches, allOfBranches, ih, List.append_assoc]

theorem allOfBranch_singleton (p : Piece) : allOfBranch [p] = p.all :=
  List.append_nil p.all

theorem allOfBranches_singleton (b : List Piece) : allOfBranches [b] = allOfBranch b :=
  List.append_nil (allOfBranch b)

def Piece.nestsQuantifiers : Piece → Bool
  | .leaf _ _ => false
  | .group branches label => label.quantifier.any Quantifier.repeats && anyEndsRepeated branches

/-- What alternatives of a repeated group share. -/
def Piece.overlap? : Piece → Option String
  | .leaf _ _ => none
  | .group branches label => if label.quantifier.any Quantifier.repeats then sharedStart branches else none

def Piece.isUnboundedWildcard (p : Piece) : Bool :=
  p.core = some .wildcard && p.unbounded

def Piece.isQuantifiedClass (p : Piece) : Bool :=
  p.core = some .charClass && p.quantifier.isSome

namespace Findings

/-! ### What a piece adds -/

section

variable (found : Findings) (p : Piece) (branches : List (List Piece))

theorem noteCore_eq : found.noteCore p = { found with
    wildcards := found.wildcards ++ [p].filter Piece.isUnboundedWildcard
    classes := found.classes ++ [p].filter Piece.isQuantifiedClass } := by
  rcases hcore : p.core with _ | (_ | _ | _ | _)
  case some.charClass =>
    cases hquantified : p.quantifier.isSome <;>
      simp [noteCore, Piece.isUnboundedWildcard, Piece.isQuantifiedClass, hcore, hquantified]
  case some.wildcard =>
    cases hunbounded : p.unbounded <;>
      simp [noteCore, Piece.isUnboundedWildcard, Piece.isQuantifiedClass, hcore, hunbounded]
  all_goals simp [noteCore, Piece.isUnboundedWildcard, Piece.isQuantifiedClass, hcore]

theorem noteNested_eq : found.noteNested p branches = { found with
    nested := found.nested.or (if anyEndsRepeated branches then some p else .none) } := by
  obtain ⟨nested, overlap, wildcards, classes⟩ := found
  rw [noteNested]
  cases nested <;> cases anyEndsRepeated branches <;> rfl

theorem noteOverlap_eq : found.noteOverlap p branches = { found with
    overlap := found.overlap.or ((sharedStart branches).map fun shared => (p, shared)) } := by
  obtain ⟨nested, overlap, wildcards, classes⟩ := found
  rw [noteOverlap]
  cases overlap <;> cases sharedStart branches <;> rfl

theorem note_eq : found.note p =
    { nested := found.nested.or (if p.nestsQuantifiers then some p else .none)
      overlap := found.overlap.or (p.overlap?.map fun shared => (p, shared))
      wildcards := found.wildcards ++ [p].filter Piece.isUnboundedWildcard
      classes := found.classes ++ [p].filter Piece.isQuantifiedClass } := by
  cases p with
  | leaf kind label => simp [note, noteCore_eq, Piece.nestsQuantifiers, Piece.overlap?]
  | group branches label =>
      have hrepeats : (Piece.group branches label).repeats = label.quantifier.any Quantifier.repeats := rfl
      rw [note, hrepeats, Piece.nestsQuantifiers, Piece.overlap?]
      cases label.quantifier.any Quantifier.repeats
      · simp [noteCore_eq]
      · simp [noteCore_eq, noteNested_eq, noteOverlap_eq]

end

/-! ### What a walk finds -/

theorem foldl_note (ps : List Piece) (found : Findings) : ps.foldl note found =
    { nested := found.nested.or (ps.find? Piece.nestsQuantifiers)
      overlap := found.overlap.or (ps.findSome? fun p => p.overlap?.map fun shared => (p, shared))
      wildcards := found.wildcards ++ ps.filter Piece.isUnboundedWildcard
      classes := found.classes ++ ps.filter Piece.isQuantifiedClass } := by
  induction ps generalizing found with
  | nil => simp
  | cons p ps ih =>
      have hfilter (q : Piece → Bool) : (p :: ps).filter q = [p].filter q ++ ps.filter q :=
        List.filter_append [p] ps
      rw [List.foldl_cons, ih, note_eq, List.find?_cons, List.findSome?_cons, hfilter, hfilter]
      simp only [Option.or_assoc, List.append_assoc]
      cases p.nestsQuantifiers <;> cases p.overlap? <;> simp

end Findings

mutual

theorem Piece.walk_eq_foldl : ∀ (p : Piece) (found : Findings), p.walk found = p.all.foldl Findings.note found
  | .leaf _ _, _ => rfl
  | .group branches label, found => by
      rw [Piece.walk, Piece.all, List.foldl_cons, walkBranches_eq_foldl branches]
termination_by structural p => p

theorem walkBranches_eq_foldl : ∀ (bs : List (List Piece)) (found : Findings),
    walkBranches bs found = (allOfBranches bs).foldl Findings.note found
  | [], _ => rfl
  | b :: bs, found => by
      rw [walkBranches, allOfBranches, List.foldl_append, walkBranch_eq_foldl b, walkBranches_eq_foldl bs]
termination_by structural bs => bs

theorem walkBranch_eq_foldl : ∀ (ps : List Piece) (found : Findings),
    walkBranch ps found = (allOfBranch ps).foldl Findings.note found
  | [], _ => rfl
  | p :: ps, found => by
      rw [walkBranch, allOfBranch, List.foldl_append, p.walk_eq_foldl, walkBranch_eq_foldl ps]
termination_by structural ps => ps

end

/-- The walk finds the first piece with nested quantifiers and the first whose alternatives overlap, and every unbounded
wildcard and every quantified class. -/
theorem walkBranches_none (outline : Outline) : walkBranches outline .none =
    { nested := (allOfBranches outline).find? Piece.nestsQuantifiers
      overlap := (allOfBranches outline).findSome? fun p => p.overlap?.map fun shared => (p, shared)
      wildcards := (allOfBranches outline).filter Piece.isUnboundedWildcard
      classes := (allOfBranches outline).filter Piece.isQuantifiedClass } := by
  rw [walkBranches_eq_foldl, Findings.foldl_note]
  simp [Findings.none]

end Attest.Pattern

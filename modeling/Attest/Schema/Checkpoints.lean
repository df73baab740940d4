/-!
Checkpoints of a chain of steps: a finite set of positions, kept in ascending order. A checkpoint at `p` stands
after the first `p` steps.
-/

namespace Attest

structure Checkpoints where
  positions : List Nat
  sorted : positions.Pairwise (· < ·) := by simp
  deriving DecidableEq, Repr

namespace Checkpoints

def empty : Checkpoints where
  positions := []

/-- Puts a position into an ascending list. -/
def place (p : Nat) : List Nat → List Nat
  | [] => [p]
  | q :: qs => if p < q then p :: q :: qs else if p = q then q :: qs else q :: place p qs

theorem mem_place (p q : Nat) (ps : List Nat) : q ∈ place p ps ↔ q = p ∨ q ∈ ps := by
  induction ps with
  | nil => simp [place]
  | cons r rs ih =>
      simp only [place]
      split
      · simp
      · split
        · simp_all
        · simp only [List.mem_cons, ih]
          grind

theorem place_sorted (p : Nat) {ps : List Nat} (h : ps.Pairwise (· < ·)) :
    (place p ps).Pairwise (· < ·) := by
  induction ps with
  | nil => simp [place]
  | cons q qs ih =>
      have hq := List.pairwise_cons.1 h
      simp only [place]
      split
      · exact List.pairwise_cons.2 ⟨by grind, h⟩
      · split
        · exact h
        · refine List.pairwise_cons.2 ⟨fun r hr => ?_, ih hq.2⟩
          rcases (mem_place p r qs).1 hr with rfl | hr
          · omega
          · exact hq.1 r hr

def insert (c : Checkpoints) (p : Nat) : Checkpoints :=
  ⟨place p c.positions, place_sorted p c.sorted⟩

def ofList (ps : List Nat) : Checkpoints :=
  ps.foldl insert empty

def isEmpty (c : Checkpoints) : Bool :=
  c.positions.isEmpty

def contains (c : Checkpoints) (p : Nat) : Bool :=
  c.positions.contains p

/-- The least checkpoint behind a position. -/
def beyond? (c : Checkpoints) (p : Nat) : Option Nat :=
  c.positions.find? (p < ·)

instance : Membership Nat Checkpoints := ⟨fun c p => p ∈ c.positions⟩

@[simp] theorem mem_insert (c : Checkpoints) (p q : Nat) : q ∈ c.insert p ↔ q = p ∨ q ∈ c :=
  mem_place p q c.positions

theorem contains_iff (c : Checkpoints) (p : Nat) : c.contains p = true ↔ p ∈ c :=
  List.contains_iff_mem

end Checkpoints

end Attest

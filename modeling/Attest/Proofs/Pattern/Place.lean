import Attest.Proofs.Pattern.Walk
import Mathlib.Data.List.Nodup

/-!
Places in an outline. A place says, level by level, which alternative is entered and which of its pieces, and so pieces
that look alike are told apart by where they stand.

What is looked for in a pattern is leaves with a quantifier, and a leaf need not stand right before its quantifier: a
group that holds nothing but one piece without a quantifier counts as that piece (`Amounts`). The pieces that bear
the quantifier and the leaves that they amount to are as many, because a place is passed through by one way only and
below a piece that amounts to a leaf nothing else has a quantifier.
-/

namespace Attest.Pattern

/-- The alternative and the position in it, level by level. -/
abbrev Place := List (Nat × Nat)

/-- The piece at a place inside a piece; no steps lead to the piece itself. -/
def Piece.at? : Place → Piece → Option Piece
  | [], p => some p
  | (i, j) :: place, .group branches _ => (branches[i]?.bind (·[j]?)).bind (at? place)
  | _ :: _, .leaf .. => none

/-- The piece at a place of an outline. -/
def pieceAt? (outline : Outline) : Place → Option Piece
  | [] => none
  | (i, j) :: place => (outline[i]?.bind (·[j]?)).bind (Piece.at? place)

theorem Piece.at?_append (p : Piece) (u v : Place) : p.at? (u ++ v) = (p.at? u).bind (at? v) := by
  induction u generalizing p with
  | nil => rfl
  | cons step u ih =>
      obtain ⟨i, j⟩ := step
      cases p with
      | leaf kind label => rfl
      | group branches label =>
          rw [List.cons_append, at?, at?]
          cases branches[i]?.bind (·[j]?) with
          | none => rfl
          | some q => exact ih q

theorem pieceAt?_append {outline : Outline} {u : Place} {p : Piece} (h : pieceAt? outline u = some p) (v : Place) :
    pieceAt? outline (u ++ v) = p.at? v := by
  cases u with
  | nil => cases h
  | cons step u =>
      obtain ⟨first, hfirst, hp⟩ := Option.bind_eq_some_iff.1 h
      rw [List.cons_append, pieceAt?, hfirst, Option.bind_some, Piece.at?_append, hp, Option.bind_some]

/-! ### All places -/

mutual

/-- A piece with all pieces inside it, each with its place, where the piece itself has the place given. -/
def Piece.placed (place : Place) : Piece → List (Place × Piece)
  | .leaf kind label => [(place, .leaf kind label)]
  | .group branches label => (place, .group branches label) :: placedBranches place 0 branches
termination_by structural p => p

def placedBranches (place : Place) (i : Nat) : List (List Piece) → List (Place × Piece)
  | [] => []
  | b :: bs => placedBranch place i 0 b ++ placedBranches place (i + 1) bs
termination_by structural bs => bs

def placedBranch (place : Place) (i j : Nat) : List Piece → List (Place × Piece)
  | [] => []
  | p :: ps => p.placed (place ++ [(i, j)]) ++ placedBranch place i (j + 1) ps
termination_by structural ps => ps

end

mutual

theorem Piece.map_snd_placed (place : Place) : ∀ p : Piece, (p.placed place).map (·.2) = p.all
  | .leaf _ _ => rfl
  | .group branches label => by rw [Piece.placed, Piece.all, List.map_cons, map_snd_placedBranches]
termination_by structural p => p

theorem map_snd_placedBranches (place : Place) (i : Nat) :
    ∀ bs : List (List Piece), (placedBranches place i bs).map (·.2) = allOfBranches bs
  | [] => rfl
  | b :: bs => by
      rw [placedBranches, allOfBranches, List.map_append, map_snd_placedBranch, map_snd_placedBranches]
termination_by structural bs => bs

theorem map_snd_placedBranch (place : Place) (i j : Nat) :
    ∀ ps : List Piece, (placedBranch place i j ps).map (·.2) = allOfBranch ps
  | [] => rfl
  | p :: ps => by rw [placedBranch, allOfBranch, List.map_append, Piece.map_snd_placed, map_snd_placedBranch]
termination_by structural ps => ps

end

mutual

theorem Piece.mem_placed {place w : Place} {q : Piece} :
    ∀ p : Piece, (w, q) ∈ p.placed place ↔ ∃ v, w = place ++ v ∧ p.at? v = some q
  | .leaf kind label => by
      rw [Piece.placed, List.mem_singleton, Prod.mk.injEq]
      constructor
      · rintro ⟨rfl, rfl⟩
        exact ⟨[], (List.append_nil _).symm, rfl⟩
      · rintro ⟨v, rfl, hq⟩
        cases v with
        | nil => exact ⟨List.append_nil _, (Option.some.inj hq).symm⟩
        | cons _ _ => cases hq
  | .group branches label => by
      rw [Piece.placed, List.mem_cons, Prod.mk.injEq, mem_placedBranches]
      constructor
      · rintro (⟨rfl, rfl⟩ | ⟨i, j, v, rfl, hq⟩)
        · exact ⟨[], (List.append_nil _).symm, rfl⟩
        · exact ⟨(i, j) :: v, by rw [Nat.zero_add], hq⟩
      · rintro ⟨v, rfl, hq⟩
        cases v with
        | nil => exact .inl ⟨List.append_nil _, (Option.some.inj hq).symm⟩
        | cons step v => exact .inr ⟨step.1, step.2, v, by rw [Nat.zero_add], hq⟩
termination_by structural p => p

theorem mem_placedBranches {place w : Place} {q : Piece} {k : Nat} : ∀ bs : List (List Piece),
    (w, q) ∈ placedBranches place k bs ↔
      ∃ i j v, w = place ++ (k + i, j) :: v ∧ (bs[i]?.bind (·[j]?)).bind (Piece.at? v) = some q
  | [] => by simp [placedBranches]
  | b :: bs => by
      rw [placedBranches, List.mem_append, mem_placedBranch, mem_placedBranches]
      constructor
      · rintro (⟨j, v, rfl, hq⟩ | ⟨i, j, v, rfl, hq⟩)
        · exact ⟨0, j, v, by rw [Nat.zero_add]; rfl, hq⟩
        · exact ⟨i + 1, j, v, by rw [Nat.add_assoc, Nat.add_comm 1], hq⟩
      · rintro ⟨i, j, v, rfl, hq⟩
        cases i with
        | zero => exact .inl ⟨j, v, by rw [Nat.zero_add]; rfl, hq⟩
        | succ i => exact .inr ⟨i, j, v, by rw [Nat.add_assoc, Nat.add_comm 1], hq⟩
termination_by structural bs => bs

theorem mem_placedBranch {place w : Place} {q : Piece} {i k : Nat} : ∀ ps : List Piece,
    (w, q) ∈ placedBranch place i k ps ↔ ∃ j v, w = place ++ (i, k + j) :: v ∧ ps[j]?.bind (Piece.at? v) = some q
  | [] => by simp [placedBranch]
  | p :: ps => by
      rw [placedBranch, List.mem_append, Piece.mem_placed, mem_placedBranch]
      constructor
      · rintro (⟨v, rfl, hq⟩ | ⟨j, v, rfl, hq⟩)
        · exact ⟨0, v, by rw [List.append_assoc]; rfl, hq⟩
        · exact ⟨j + 1, v, by rw [Nat.add_assoc, Nat.add_comm 1], hq⟩
      · rintro ⟨j, v, rfl, hq⟩
        cases j with
        | zero => exact .inl ⟨v, by rw [List.append_assoc]; rfl, hq⟩
        | succ j => exact .inr ⟨j, v, by rw [Nat.add_assoc, Nat.add_comm 1], hq⟩
termination_by structural ps => ps

end

/-- All pieces of an outline with their places. -/
def placed (outline : Outline) : List (Place × Piece) :=
  placedBranches [] 0 outline

theorem map_snd_placed (outline : Outline) : (placed outline).map (·.2) = allOfBranches outline :=
  map_snd_placedBranches [] 0 outline

theorem mem_placed {outline : Outline} {w : Place} {q : Piece} :
    (w, q) ∈ placed outline ↔ pieceAt? outline w = some q := by
  rw [placed, mem_placedBranches]
  constructor
  · rintro ⟨i, j, v, rfl, hq⟩
    rwa [List.nil_append, Nat.zero_add]
  · intro hq
    cases w with
    | nil => cases hq
    | cons step v => exact ⟨step.1, step.2, v, by rw [List.nil_append, Nat.zero_add], hq⟩

/-- A piece is in an outline exactly if it is at some place of it. -/
theorem mem_allOfBranches {outline : Outline} {q : Piece} :
    q ∈ allOfBranches outline ↔ ∃ w, pieceAt? outline w = some q := by
  rw [← map_snd_placed, List.mem_map]
  constructor
  · rintro ⟨⟨w, q⟩, hmem, rfl⟩
    exact ⟨w, mem_placed.1 hmem⟩
  · rintro ⟨w, hq⟩
    exact ⟨(w, q), mem_placed.2 hq, rfl⟩

theorem ne_of_step_ne {place v v' : Place} {step step' : Nat × Nat} (h : step ≠ step') :
    place ++ step :: v ≠ place ++ step' :: v' := by
  intro heq
  exact h (List.cons.inj (List.append_cancel_left heq)).1

mutual

theorem Piece.nodup_placed (place : Place) : ∀ p : Piece, ((p.placed place).map (·.1)).Nodup
  | .leaf _ _ => List.nodup_singleton _
  | .group branches label => by
      rw [Piece.placed, List.map_cons, List.nodup_cons]
      refine ⟨fun hmem => ?_, nodup_placedBranches place 0 branches⟩
      obtain ⟨⟨w, q⟩, hq, hw⟩ := List.mem_map.1 hmem
      obtain ⟨i, j, v, rfl, -⟩ := (mem_placedBranches branches).1 hq
      simp at hw
termination_by structural p => p

theorem nodup_placedBranches (place : Place) (k : Nat) :
    ∀ bs : List (List Piece), ((placedBranches place k bs).map (·.1)).Nodup
  | [] => List.nodup_nil
  | b :: bs => by
      rw [placedBranches, List.map_append, List.nodup_append]
      refine ⟨nodup_placedBranch place k 0 b, nodup_placedBranches place (k + 1) bs, ?_⟩
      rintro _ hfirst _ hlater rfl
      obtain ⟨⟨w, q⟩, hq, rfl⟩ := List.mem_map.1 hfirst
      obtain ⟨⟨w', q'⟩, hq', hw⟩ := List.mem_map.1 hlater
      obtain ⟨j, v, rfl, -⟩ := (mem_placedBranch b).1 hq
      obtain ⟨i, j', v', rfl, -⟩ := (mem_placedBranches bs).1 hq'
      exact ne_of_step_ne (by simp only [ne_eq, Prod.mk.injEq]; omega) hw
termination_by structural bs => bs

theorem nodup_placedBranch (place : Place) (i k : Nat) :
    ∀ ps : List Piece, ((placedBranch place i k ps).map (·.1)).Nodup
  | [] => List.nodup_nil
  | p :: ps => by
      rw [placedBranch, List.map_append, List.nodup_append]
      refine ⟨Piece.nodup_placed _ p, nodup_placedBranch place i (k + 1) ps, ?_⟩
      rintro _ hfirst _ hlater rfl
      obtain ⟨⟨w, q⟩, hq, rfl⟩ := List.mem_map.1 hfirst
      obtain ⟨⟨w', q'⟩, hq', hw⟩ := List.mem_map.1 hlater
      obtain ⟨v, rfl, -⟩ := (Piece.mem_placed p).1 hq
      obtain ⟨j, v', rfl, -⟩ := (mem_placedBranch ps).1 hq'
      rw [List.append_assoc] at hw
      exact ne_of_step_ne (by simp only [ne_eq, Prod.mk.injEq]; omega) hw
termination_by structural ps => ps

end

/-! ### Leaves and their quantifiers -/

/-- A piece amounts to the leaf at a place inside it if that is the piece itself, or if the piece is a group that holds
nothing but one piece without a quantifier and this amounts to the leaf. -/
inductive Piece.Amounts : Piece → Place → Leaf → Prop
  | leaf {kind label} : Amounts (.leaf kind label) [] kind
  | group {only label place kind} (hfree : only.quantifier = none) (h : Amounts only place kind) :
      Amounts (.group [[only]] label) ((0, 0) :: place) kind

/-- The piece with the quantifier of the leaf at a place, if it has one for which `suits` holds. -/
def Bears (outline : Outline) (kind : Leaf) (suits : Quantifier → Bool) (w : Place) (p : Piece) : Prop :=
  ∃ u v, w = u ++ v ∧ pieceAt? outline u = some p ∧ p.Amounts v kind ∧ p.quantifier.any suits = true

namespace Piece

variable {p p' : Piece} {kind kind' : Leaf} {u v w : Place}

/-- Where the leaf is that a piece amounts to, if it amounts to one. -/
def leafPlace : Piece → Place
  | .group [[only]] _ => (0, 0) :: only.leafPlace
  | _ => []

theorem Amounts.core_eq (h : p.Amounts v kind) : p.core = some kind := by
  induction h with
  | leaf => rfl
  | group hfree _ ih => rw [core, hfree, Option.isNone_none, if_pos rfl, ih]

theorem Amounts.leafPlace_eq (h : p.Amounts v kind) : p.leafPlace = v := by
  induction h with
  | leaf => rfl
  | group _ _ ih => rw [leafPlace, ih]

theorem amounts_of_core (h : p.core = some kind) : p.Amounts p.leafPlace kind := by
  fun_induction core p with
  | case1 k label =>
      obtain rfl := Option.some.inj h
      exact .leaf
  | case2 only label hfree ih => exact .group (Option.isNone_iff_eq_none.1 hfree) (ih h)
  | case3 => cases h
  | case4 => cases h

theorem core_eq_iff : p.core = some kind ↔ p.Amounts p.leafPlace kind :=
  ⟨amounts_of_core, Amounts.core_eq⟩

/-- Below a piece that amounts to a leaf nothing has a quantifier on the way to the leaf. -/
theorem Amounts.quantifier_eq_none (h : p.Amounts (u ++ v) kind) (hne : u ≠ []) (hp : p.at? u = some p') :
    p'.quantifier = none := by
  generalize hw : u ++ v = w at h
  induction h generalizing u with
  | leaf => exact absurd (List.append_eq_nil_iff.1 hw).1 hne
  | @group only label place kind hfree h ih =>
      obtain _ | ⟨step, u⟩ := u
      · exact absurd rfl hne
      · obtain ⟨rfl, hplace⟩ := List.cons.inj hw
        have hp : only.at? u = some p' := hp
        cases u with
        | nil =>
            obtain rfl := Option.some.inj hp
            exact hfree
        | cons step' u => exact ih (List.cons_ne_nil _ _) hp hplace

end Piece

variable {outline : Outline} {kind : Leaf} {suits : Quantifier → Bool} {w : Place} {p : Piece}

/-- A leaf is in the reach of one quantifier only. -/
theorem eq_of_amounts {u u' v v' : Place} {p p' : Piece} (hp : pieceAt? outline u = some p)
    (hp' : pieceAt? outline u' = some p') (h : p.Amounts v kind) (h' : p'.Amounts v' kind)
    (hbears : p.quantifier.any suits = true) (hbears' : p'.quantifier.any suits = true)
    (hplace : u ++ v = u' ++ v') : u = u' := by
  -- One of the two pieces is inside the other, and there it would be free of a quantifier.
  rcases List.append_eq_append_iff.1 hplace with ⟨t, rfl, rfl⟩ | ⟨t, rfl, rfl⟩
  · rw [pieceAt?_append hp] at hp'
    by_contra hne
    have ht : t ≠ [] := fun ht => hne (by rw [ht, List.append_nil])
    rw [h.quantifier_eq_none ht hp'] at hbears'
    cases hbears'
  · rw [pieceAt?_append hp'] at hp
    by_contra hne
    have ht : t ≠ [] := fun ht => hne (by rw [ht, List.append_nil])
    rw [h'.quantifier_eq_none ht hp] at hbears
    cases hbears

/-- What an outline has of pieces that amount to leaves of a kind and bear a quantifier that suits. -/
def bearers (outline : Outline) (kind : Leaf) (suits : Quantifier → Bool) : List Piece :=
  (allOfBranches outline).filter fun p => p.core = some kind && p.quantifier.any suits

/-- **Each piece that bears a quantifier stands for one leaf**: the pieces listed in reading order belong to different
leaves, and every leaf with a quantifier that suits is among them. -/
theorem exists_leaves (outline : Outline) (kind : Leaf) (suits : Quantifier → Bool) :
    ∃ leaves : List (Place × Piece), leaves.map (·.2) = bearers outline kind suits ∧ (leaves.map (·.1)).Nodup ∧
      ∀ w p, (w, p) ∈ leaves ↔ Bears outline kind suits w p := by
  let bearing := (placed outline).filter fun x => x.2.core = some kind && x.2.quantifier.any suits
  have hmem {u : Place} {p : Piece} : (u, p) ∈ bearing ↔
      pieceAt? outline u = some p ∧ p.Amounts p.leafPlace kind ∧ p.quantifier.any suits = true := by
    rw [List.mem_filter, mem_placed, Bool.and_eq_true, decide_eq_true_eq, Piece.core_eq_iff]
  refine ⟨bearing.map fun x => (x.1 ++ x.2.leafPlace, x.2), ?_, ?_, fun w p => ?_⟩
  · rw [List.map_map, bearers, ← map_snd_placed, List.filter_map]
    rfl
  · rw [List.map_map]
    have hnodup : bearing.Nodup :=
      (List.Nodup.of_map _ (nodup_placedBranches [] 0 outline)).filter _
    refine hnodup.map_on fun x hx y hy hplace => ?_
    obtain ⟨u, p⟩ := x
    obtain ⟨u', p'⟩ := y
    obtain ⟨hp, hamounts, hbears⟩ := hmem.1 hx
    obtain ⟨hp', hamounts', hbears'⟩ := hmem.1 hy
    obtain rfl := eq_of_amounts hp hp' hamounts hamounts' hbears hbears' hplace
    rw [Option.some.inj (hp.symm.trans hp')]
  · rw [List.mem_map]
    constructor
    · rintro ⟨⟨u, q⟩, hq, heq⟩
      obtain ⟨rfl, rfl⟩ := Prod.mk.inj heq
      obtain ⟨hp, hamounts, hbears⟩ := hmem.1 hq
      exact ⟨u, q.leafPlace, rfl, hp, hamounts, hbears⟩
    · rintro ⟨u, v, rfl, hp, hamounts, hbears⟩
      have hleaf := hamounts.leafPlace_eq
      exact ⟨(u, p), hmem.2 ⟨hp, hleaf ▸ hamounts, hbears⟩, by rw [hleaf]⟩

end Attest.Pattern

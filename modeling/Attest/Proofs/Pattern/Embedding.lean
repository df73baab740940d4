import Attest.Proofs.Pattern.Verdict

/-!
Patterns inside patterns. Whatever is built around alternatives, more pieces, more alternatives, a group, keeps all
pieces that are inside them, and what makes a pattern hazardous is looked for piece by piece. So a hazard does
not go away in a larger pattern; at most another one is told before it.
-/

namespace Attest.Pattern

/-- The outlines that have `inner` somewhere inside: itself, and with one of them also any that adds pieces to one of its
alternatives, or an alternative, or that makes it the content of a group. -/
inductive Embeds (inner : Outline) : Outline → Prop
  | refl : Embeds inner inner
  | pieces {above below : Outline} {b : List Piece} (before after : List Piece)
      (h : Embeds inner (above ++ b :: below)) : Embeds inner (above ++ (before ++ b ++ after) :: below)
  | alternative {above below : Outline} (b : List Piece) (h : Embeds inner (above ++ below)) :
      Embeds inner (above ++ b :: below)
  | group {outer : Outline} (label : Label) (h : Embeds inner outer) : Embeds inner [[.group outer label]]

/-- How late a reason is told among those that an outline can give. -/
def Reason.rank : Reason → Nat
  | .nestedQuantifiers => 1
  | .manyWildcards => 2
  | .overlappingAlternatives => 3
  | _ => 0

variable {inner outer : Outline}

/-- The pieces inside stay, in their order. -/
theorem Embeds.sublist (h : Embeds inner outer) : (allOfBranches inner).Sublist (allOfBranches outer) := by
  induction h with
  | refl => exact List.Sublist.refl _
  | @pieces above below b before after h ih =>
      refine ih.trans ?_
      rw [allOfBranches_append, allOfBranches_append, allOfBranches, allOfBranches, allOfBranch_append,
        allOfBranch_append]
      refine ((List.Sublist.refl _).append (List.Sublist.append ?_ (List.Sublist.refl _)))
      exact (List.sublist_append_right _ _).trans (List.sublist_append_left _ _)
  | @alternative above below b h ih =>
      refine ih.trans ?_
      rw [allOfBranches_append, allOfBranches_append, allOfBranches]
      exact (List.Sublist.refl _).append (List.sublist_append_right _ _)
  | @group outer label h ih =>
      refine ih.trans ?_
      rw [allOfBranches_singleton, allOfBranch_singleton]
      exact List.sublist_cons_self _ _

theorem Embeds.append_above (h : Embeds inner outer) (above : Outline) : Embeds inner (above ++ outer) := by
  induction above with
  | nil => exact h
  | cons b above ih => exact @Embeds.alternative _ [] _ b ih

theorem Embeds.append_below (h : Embeds inner outer) (below : Outline) : Embeds inner (outer ++ below) := by
  induction below generalizing outer with
  | nil => rwa [List.append_nil]
  | cons b below ih =>
      have hlast : Embeds inner (outer ++ [b]) := @Embeds.alternative _ _ [] b (by rwa [List.append_nil])
      have hbelow := ih hlast
      rwa [List.append_assoc] at hbelow

/-- The alternatives of a group are inside the outline that has the group. -/
theorem embeds_of_pieceAt? {w : Place} {branches : Outline} {label : Label}
    (h : pieceAt? outer w = some (.group branches label)) : Embeds branches outer := by
  induction w generalizing outer with
  | nil => cases h
  | cons step w ih =>
      obtain ⟨p, hfirst, hp⟩ := Option.bind_eq_some_iff.1 h
      obtain ⟨b, hb, hj⟩ := Option.bind_eq_some_iff.1 hfirst
      obtain ⟨above, below, rfl⟩ := List.append_of_mem (List.mem_of_getElem? hb)
      obtain ⟨before, after, rfl⟩ := List.append_of_mem (List.mem_of_getElem? hj)
      have hpiece : Embeds branches [[p]] := by
        cases w with
        | nil =>
            obtain rfl := Option.some.inj hp
            exact .group label .refl
        | cons step' w =>
            cases p with
            | leaf kind label' => cases hp
            | group inside label' => exact .group label' (ih hp)
      have hbranch : Embeds branches [before ++ [p] ++ after] :=
        @Embeds.pieces _ [] [] _ before after hpiece
      rw [List.append_assoc, List.singleton_append] at hbranch
      exact (hbranch.append_below below).append_above above

/-! ### Hazards in a larger outline -/

theorem findsNesting_of_embeds (h : Embeds inner outer) (hinner : findsNesting inner = true) :
    findsNesting outer = true := by
  obtain ⟨p, hp, hnests⟩ := List.any_eq_true.1 hinner
  exact List.any_eq_true.2 ⟨p, h.sublist.subset hp, hnests⟩

theorem findsOverlap_of_embeds (h : Embeds inner outer) (hinner : findsOverlap inner = true) :
    findsOverlap outer = true := by
  obtain ⟨p, hp, hshared⟩ := List.any_eq_true.1 hinner
  exact List.any_eq_true.2 ⟨p, h.sublist.subset hp, hshared⟩

theorem length_bearers_le (h : Embeds inner outer) (kind : Leaf) (suits : Quantifier → Bool) :
    (bearers inner kind suits).length ≤ (bearers outer kind suits).length :=
  (h.sublist.filter _).length_le

/-- A reason against alternatives is a reason against what is built around them, unless there is one that is told
before it. -/
theorem exists_reason_of_embeds (h : Embeds inner outer) {reason : Reason}
    (hinner : reason? (inspect inner) = some reason) :
    ∃ reason', reason? (inspect outer) = some reason' ∧ reason'.rank ≤ reason.rank := by
  have hnesting := findsNesting_of_embeds h
  have hwildcards := length_bearers_le h .wildcard Quantifier.unbounded
  have hoverlap := findsOverlap_of_embeds h
  rw [reason?_inspect] at hinner ⊢
  by_cases hnests : findsNesting outer = true
  · refine ⟨_, if_pos hnests, ?_⟩
    split_ifs at hinner <;> cases hinner <;> decide
  · rw [if_neg hnests]
    rw [if_neg (mt hnesting hnests)] at hinner
    by_cases hmany : 2 ≤ (bearers outer .wildcard Quantifier.unbounded).length
    · refine ⟨_, if_pos hmany, ?_⟩
      split_ifs at hinner <;> cases hinner <;> decide
    · rw [if_neg hmany]
      rw [if_neg fun hfew => hmany (Nat.le_trans hfew hwildcards)] at hinner
      split_ifs at hinner with hoverlaps
      · cases hinner
        exact ⟨_, if_pos (hoverlap hoverlaps), Nat.le_refl _⟩

/-- What is inside an outline that passes inspection passes it too. -/
theorem exists_inspect_eq_ok_of_embeds (h : Embeds inner outer) {warning : Option Warning}
    (houter : inspect outer = .ok warning) : ∃ warning', inspect inner = .ok warning' := by
  cases hinner : inspect inner with
  | ok warning' => exact ⟨warning', rfl⟩
  | error rejection =>
      have hrejected : reason? (inspect inner) = some rejection.reason := by rw [hinner]; rfl
      obtain ⟨reason, hreason, -⟩ := exists_reason_of_embeds h hrejected
      rw [houter] at hreason
      cases hreason

/-- **A hazard stays one in whatever is built around it.** Alternatives that are rejected are rejected inside every larger
outline, for the same reason or for one that is told before it. So what is inside the outline of an accepted pattern
passes inspection, and among that is the content of each of its groups. -/
theorem inspect_rejects_around {inner outer : Outline} (h : Embeds inner outer) :
    (∀ rejection, inspect inner = .error rejection → ∃ rejection', inspect outer = .error rejection' ∧
      rejection'.reason.rank ≤ rejection.reason.rank) ∧
    ∀ limit pattern vetted ast, vet limit pattern = .ok vetted → Regex.Ast.read? pattern = some ast →
      ast.outline pattern = outer → (∃ warning, inspect inner = .ok warning) ∧
        ∀ w branches label, pieceAt? outer w = some (.group branches label) →
          ∃ warning, inspect branches = .ok warning := by
  constructor
  · intro rejection hinner
    have hrejected : reason? (inspect inner) = some rejection.reason := by rw [hinner]; rfl
    obtain ⟨reason, hreason, hrank⟩ := exists_reason_of_embeds h hrejected
    cases houter : inspect outer with
    | ok warning =>
        rw [houter] at hreason
        cases hreason
    | error rejection' =>
        rw [houter] at hreason
        obtain rfl := Option.some.inj hreason
        exact ⟨rejection', rfl, hrank⟩
  · rintro limit pattern vetted ast hvet hast rfl
    obtain ⟨-, ast', hast', hinspect, -⟩ := vet_eq_ok_iff.1 hvet
    obtain rfl := Option.some.inj (hast'.symm.trans hast)
    exact ⟨exists_inspect_eq_ok_of_embeds h hinspect, fun w branches label hgroup =>
      exists_inspect_eq_ok_of_embeds (embeds_of_pieceAt? hgroup) hinspect⟩

/-- One or more of one or more: `(a+)+`. -/
def doublyRepeated : Outline :=
  [[.group [[.leaf .literal ⟨some ⟨1, none⟩, "a", "a+"⟩]] ⟨some ⟨1, none⟩, "(a+)", "(a+)+"⟩]]

/-- Something that may be left out, between two wildcards: `.*(…|b)?.*`. -/
def amongWildcards (content : Outline) : Outline :=
  [[.leaf .wildcard ⟨some ⟨0, none⟩, ".", ".*"⟩] ++
    [.group (content ++ [[.leaf .literal ⟨none, "b", "b"⟩]]) ⟨some ⟨0, some 1⟩, "(…|b)", "(…|b)?"⟩] ++
    [.leaf .wildcard ⟨some ⟨0, none⟩, ".", ".*"⟩]]

theorem embeds_amongWildcards (content : Outline) : Embeds content (amongWildcards content) :=
  @Embeds.pieces _ [] [] _ _ _ (.group _ (.append_below .refl _))

theorem inspect_rejects_around_amongWildcards :
    Embeds doublyRepeated (amongWildcards doublyRepeated) ∧
      inspect doublyRepeated = .error (.nestedQuantifiers "(a+)+") ∧
      (∃ rejection, inspect (amongWildcards doublyRepeated) = .error rejection ∧ rejection.reason.rank ≤ 1) ∧
      ∃ vetted ast, vet 20 "x([0-9]+|b)?" = .ok vetted ∧ Regex.Ast.read? "x([0-9]+|b)?" = some ast ∧
        ∀ w branches label, pieceAt? (ast.outline "x([0-9]+|b)?") w = some (.group branches label) →
          ∃ warning, inspect branches = .ok warning := by
  have hinner : inspect doublyRepeated = .error (.nestedQuantifiers "(a+)+") := by decide +kernel
  have haccepted : (vet 20 "x([0-9]+|b)?").toOption.isSome = true := by decide +kernel
  cases hvet : vet 20 "x([0-9]+|b)?" with
  | error rejection => simp [hvet, Except.toOption] at haccepted
  | ok vetted =>
      obtain ⟨-, ast, hast, -⟩ := vet_eq_ok_iff.1 hvet
      exact ⟨embeds_amongWildcards _, hinner, (inspect_rejects_around (embeds_amongWildcards _)).1 _ hinner, vetted, ast,
        rfl, hast, ((inspect_rejects_around .refl).2 20 _ vetted ast hvet hast rfl).2⟩

end Attest.Pattern

import Attest.Proofs.Pattern.Embedding

/-!
A group around a piece. The group takes over the quantifier, and so it bears what the piece bore and nests
quantifiers where the piece did. Yet two things are looked for by other means than what a piece amounts to. An
alternative ends in what stands before its anchors, and an anchor in a group of its own is no anchor any more; and
alternatives are said to begin alike if their first pieces are written alike, whatever these are, and only
those of the very group that repeats are compared.

So a pattern with a group around one of its pieces may be judged otherwise. It is not as long as the end of the alternative
(`KeepsEnds`) and the starts of those it stands in (`KeepsStarts`) are not affected.
-/

namespace Attest.Pattern

namespace Piece

/-- The piece without its quantifier. -/
def bare (p : Piece) : Piece :=
  p.withLabel ⟨none, p.label.bareText, p.label.bareText⟩

/-- A piece and the same one with a group around what is at a place inside it. The group has the quantifier; a piece that
counts as a group already, because it has several quantifiers, gets no further one, and its text alone changes. -/
inductive Encloses : Place → Piece → Piece → Prop
  | here (p : Piece) (bareText text : String) : Encloses [] p (.group [[p.bare]] ⟨p.quantifier, bareText, text⟩)
  | stacked {only : Piece} (h : only.quantifier.isSome = true) (label : Label) (bareText text : String) :
      Encloses [] (.group [[only]] label) (.group [[only]] ⟨label.quantifier, bareText, text⟩)
  | inside {above below : List (List Piece)} {before after : List Piece} {place : Place} {p p' : Piece} {label : Label}
      (h : Encloses place p p') (bareText text : String) :
      Encloses ((above.length, before.length) :: place) (.group (above ++ (before ++ p :: after) :: below) label)
        (.group (above ++ (before ++ p' :: after) :: below) ⟨label.quantifier, bareText, text⟩)

/-- The piece at a place inside another one, with what stands before it and behind it in its alternative. -/
inductive Stands : Piece → Place → List Piece → Piece → List Piece → Prop
  | here {above below : List (List Piece)} {before after : List Piece} {p : Piece} {label : Label} :
      Stands (.group (above ++ (before ++ p :: after) :: below) label) [(above.length, before.length)] before p after
  | inside {above below : List (List Piece)} {before after earlier later : List Piece} {place : Place} {p q : Piece}
      {label : Label} (h : Stands q place before p after) :
      Stands (.group (above ++ (earlier ++ q :: later) :: below) label) ((above.length, earlier.length) :: place)
        before p after

/-- An anchor at a place takes no part in the end of its alternative: something else than anchors stands behind it, or
what stands before it ends like the anchor itself, or no group around it repeats. -/
def KeepsEnds (whole : Piece) (w : Place) : Prop :=
  ∀ before p after, whole.Stands w before p after → p.isAnchor = true →
    (∃ q ∈ after, q.isAnchor = false) ∨ (EndsRepeating before ↔ p.repeats = true) ∨
      ∀ v q, v <+: w → v ≠ w → whole.at? v = some q → q.repeats = false

/-- The piece at a place is no repeated group with alternatives that begin alike. And wherever it is written in the first
piece of an alternative of a repeated group, no other alternative of that group begins like this one, neither
before nor after the change. -/
structure KeepsStarts (whole whole' : Piece) (w : Place) : Prop where
  own : ∀ p, whole.at? w = some p → p.overlap? = none
  around : ∀ v i u g, w = v ++ (i, 0) :: u → whole.at? v = some g → g.repeats = true → ∀ j p first, j ≠ i →
    whole.at? (v ++ [(j, 0)]) = some p →
    (whole.at? (v ++ [(i, 0)]) = some first ∨ whole'.at? (v ++ [(i, 0)]) = some first) →
      p.label.bareText ≠ first.label.bareText

/-! ### What the group takes over -/

/-- All pieces inside a piece. -/
def inner : Piece → List Piece
  | .leaf _ _ => []
  | .group branches _ => allOfBranches branches

@[simp] theorem inner_group (branches : List (List Piece)) (label : Label) :
    (Piece.group branches label).inner = allOfBranches branches := rfl

theorem all_eq_cons (p : Piece) : p.all = p :: p.inner := by
  cases p <;> rfl

@[simp] theorem inner_bare (p : Piece) : p.bare.inner = p.inner := by
  cases p <;> rfl

@[simp] theorem quantifier_bare (p : Piece) : p.bare.quantifier = none := by
  cases p <;> rfl

theorem core_withLabel (p : Piece) (label : Label) : (p.withLabel label).core = p.core := by
  cases p with
  | leaf kind _ => rfl
  | group branches _ => rcases branches with _ | ⟨_ | ⟨_, _ | _⟩, _ | _⟩ <;> simp [withLabel, core]

@[simp] theorem core_bare (p : Piece) : p.bare.core = p.core :=
  p.core_withLabel _

theorem repeats_bare (p : Piece) : p.bare.repeats = false := by
  rw [repeats, quantifier_bare]
  rfl

theorem at?_group_around {above below : List (List Piece)} {before after : List Piece} {p : Piece} {label : Label}
    (place : Place) : (Piece.group (above ++ (before ++ p :: after) :: below) label).at?
      ((above.length, before.length) :: place) = p.at? place := by
  simp [at?]

variable {p p' : Piece} {w : Place}

theorem Stands.at?_eq {whole : Piece} {before after : List Piece} (h : whole.Stands w before p after) :
    whole.at? w = some p := by
  induction h with
  | here => exact at?_group_around []
  | inside h ih => rw [at?_group_around, ih]

/-- The end of an alternative takes no notice of a group around anything but an anchor. -/
theorem keepsEnds_of_isAnchor_eq_false {whole : Piece} (h : whole.at? w = some p) (hp : p.isAnchor = false) :
    whole.KeepsEnds w := by
  intro before q after hq hanchor
  rw [Option.some.inj (h.symm.trans hq.at?_eq), hanchor] at hp
  cases hp

theorem Encloses.quantifier_eq (h : p.Encloses w p') : p'.quantifier = p.quantifier := by
  cases h <;> rfl

theorem Encloses.repeats_eq (h : p.Encloses w p') : p'.repeats = p.repeats := by
  rw [repeats, repeats, h.quantifier_eq]

theorem Encloses.isAnchor_eq_false (h : p.Encloses w p') : p'.isAnchor = false := by
  cases h <;> rfl

/-- A piece and the group around it amount to the same leaf. -/
theorem Encloses.core_eq (h : p.Encloses w p') : p'.core = p.core := by
  induction h with
  | here p => simp [core]
  | stacked => rfl
  | @inside above below before after place p p' label h bareText text ih =>
      rcases above with _ | ⟨_, _ | _⟩ <;> rcases below with _ | _ <;> rcases before with _ | ⟨_, _ | _⟩ <;>
        rcases after with _ | _ <;> simp [core, ih, h.quantifier_eq]

/-- Whether a piece bears a quantifier that suits for a leaf of a kind. -/
def bears (kind : Leaf) (suits : Quantifier → Bool) (p : Piece) : Bool :=
  p.core = some kind && p.quantifier.any suits

theorem Encloses.bears_eq (h : p.Encloses w p') (kind : Leaf) (suits : Quantifier → Bool) :
    p'.bears kind suits = p.bears kind suits := by
  rw [bears, bears, h.core_eq, h.quantifier_eq]

end Piece

theorem allOfBranches_around (above below : List (List Piece)) (before after : List Piece) (p : Piece) :
    allOfBranches (above ++ (before ++ p :: after) :: below) =
      allOfBranches above ++ (allOfBranch before ++ (p.all ++ allOfBranch after) ++ allOfBranches below) := by
  rw [allOfBranches_append, allOfBranches, allOfBranch_append, allOfBranch]

namespace Piece

variable {p p' : Piece} {w : Place}

/-- As many pieces bear a quantifier with the group as without. -/
theorem Encloses.countP_bears (h : p.Encloses w p') (kind : Leaf) (suits : Quantifier → Bool) :
    p'.all.countP (bears kind suits) = p.all.countP (bears kind suits) := by
  have hhead := h.bears_eq kind suits
  rw [all_eq_cons, all_eq_cons, List.countP_cons, List.countP_cons, hhead]
  refine congrArg (· + _) ?_
  induction h with
  | here p =>
      have hbare : p.bare.bears kind suits = false := by simp [bears]
      simp [allOfBranches, allOfBranch, all_eq_cons p.bare, hbare]
  | stacked => rfl
  | @inside above below before after place p p' label h bareText text ih =>
      have hp := h.bears_eq kind suits
      simp only [inner_group, allOfBranches_around, List.countP_append, all_eq_cons p, all_eq_cons p', List.countP_cons,
        hp, ih hp]

/-! ### Ends -/

end Piece

theorem branchEndsRepeated_append (ps qs : List Piece) : branchEndsRepeated (ps ++ qs) =
    if qs.all Piece.isAnchor then branchEndsRepeated ps else branchEndsRepeated qs := by
  induction ps with
  | nil =>
      rw [List.nil_append]
      split
      next hanchors =>
        rw [branchEndsRepeated, ← Bool.not_eq_true, branchEndsRepeated_iff]
        intro hends
        obtain ⟨q, hq, hno⟩ := hends.exists_no_anchor
        rw [List.all_eq_true.1 hanchors q hq] at hno
        cases hno
      next => rfl
  | cons p ps ih =>
      rw [List.cons_append, branchEndsRepeated, ih, List.all_append, branchEndsRepeated]
      cases hqs : qs.all Piece.isAnchor <;> cases hps : ps.all Piece.isAnchor <;> simp

theorem anyEndsRepeated_append (bs cs : List (List Piece)) :
    anyEndsRepeated (bs ++ cs) = (anyEndsRepeated bs || anyEndsRepeated cs) := by
  induction bs with
  | nil => rfl
  | cons b bs ih => rw [List.cons_append, anyEndsRepeated, anyEndsRepeated, ih, Bool.or_assoc]

/-- What stands in an alternative counts for its end as long as both pieces end alike and neither is an anchor. -/
theorem branchEndsRepeated_congr {p p' : Piece} (hp : p.isAnchor = false) (hp' : p'.isAnchor = false)
    (h : p'.endsRepeated = p.endsRepeated) (before after : List Piece) :
    branchEndsRepeated (before ++ p' :: after) = branchEndsRepeated (before ++ p :: after) := by
  simp [branchEndsRepeated_append, branchEndsRepeated, hp, hp', h]

/-- An anchor and a group around it end an alternative alike if something else stands behind, or if the anchor itself ends
like what stands before it. -/
theorem branchEndsRepeated_congr_of_isAnchor {p p' : Piece} {before after : List Piece} (hp : p.isAnchor = true)
    (hp' : p'.isAnchor = false) (h : p'.endsRepeated = p.repeats)
    (hkeeps : (∃ q ∈ after, q.isAnchor = false) ∨ (EndsRepeating before ↔ p.repeats = true)) :
    branchEndsRepeated (before ++ p' :: after) = branchEndsRepeated (before ++ p :: after) := by
  rw [branchEndsRepeated_append, branchEndsRepeated_append, branchEndsRepeated, branchEndsRepeated, List.all_cons,
    List.all_cons, hp, hp', Bool.true_and, Bool.false_and, if_neg Bool.false_ne_true]
  cases hafter : after.all Piece.isAnchor with
  | false => rfl
  | true =>
      rw [if_pos rfl, if_pos rfl, h, Bool.not_false, Bool.true_and, Bool.eq_iff_iff, branchEndsRepeated_iff]
      rcases hkeeps with ⟨q, hq, hno⟩ | hkeeps
      · rw [List.all_eq_true.1 hafter q hq] at hno
        cases hno
      · exact hkeeps.symm

namespace Piece

variable {p p' : Piece} {w : Place}

/-- Some alternative of the piece ends in something repeated. -/
def contentEnds : Piece → Bool
  | .leaf _ _ => false
  | .group branches _ => anyEndsRepeated branches

theorem endsRepeated_eq (p : Piece) : p.endsRepeated = (p.repeats || p.contentEnds) := by
  cases p with
  | leaf kind label => rw [endsRepeated, contentEnds, Bool.or_false]; rfl
  | group branches label => rfl

theorem nestsQuantifiers_eq (p : Piece) : p.nestsQuantifiers = (p.repeats && p.contentEnds) := by
  cases p with
  | leaf kind label => rw [nestsQuantifiers, contentEnds, Bool.and_false]
  | group branches label => rfl

theorem contentEnds_of_isAnchor (hp : p.isAnchor = true) : p.contentEnds = false := by
  cases p with
  | leaf kind label => rfl
  | group branches label => cases hp

theorem contentEnds_bare (p : Piece) : p.bare.contentEnds = p.contentEnds := by
  cases p <;> rfl

theorem isAnchor_bare (p : Piece) : p.bare.isAnchor = p.isAnchor := by
  rcases p with ⟨_ | _ | _ | _, _⟩ | _ <;> rfl

/-- The content of a group around a piece ends like the content of the piece. -/
theorem contentEnds_here (p : Piece) (label : Label) : (Piece.group [[p.bare]] label).contentEnds = p.contentEnds := by
  have hsingle : branchEndsRepeated [p.bare] = (!p.bare.isAnchor && p.bare.endsRepeated) := rfl
  rw [contentEnds, anyEndsRepeated, anyEndsRepeated, Bool.or_false, hsingle, endsRepeated_eq, repeats_bare,
    contentEnds_bare, isAnchor_bare, Bool.false_or]
  cases hp : p.isAnchor with
  | false => rfl
  | true => rw [contentEnds_of_isAnchor hp]; rfl

/-- What ends in something repeated does so behind the change too, if it is kept in the alternative that the piece at
the place stands in. -/
theorem Encloses.contentEnds_eq (h : p.Encloses w p')
    (hkeeps : ∀ before q after, p.Stands w before q after → q.isAnchor = true →
      (∃ r ∈ after, r.isAnchor = false) ∨ (EndsRepeating before ↔ q.repeats = true)) :
    p'.contentEnds = p.contentEnds := by
  induction h with
  | here p => exact p.contentEnds_here _
  | stacked => rfl
  | @inside above below before after place p p' label h bareText text ih =>
      have hends : p'.endsRepeated = p.endsRepeated := by
        rw [endsRepeated_eq, endsRepeated_eq, h.repeats_eq, ih fun before q after hq => hkeeps before q after (.inside hq)]
      have hbranch : branchEndsRepeated (before ++ p' :: after) = branchEndsRepeated (before ++ p :: after) := by
        cases hp : p.isAnchor with
        | false => exact branchEndsRepeated_congr hp h.isAnchor_eq_false hends before after
        | true =>
            -- An anchor has nothing inside, so the place is its own.
            have hplace : place = [] := by
              cases h with
              | here | stacked => rfl
              | inside => cases hp
            subst hplace
            refine branchEndsRepeated_congr_of_isAnchor hp h.isAnchor_eq_false ?_ (hkeeps before p after .here hp)
            rw [hends, endsRepeated_eq, contentEnds_of_isAnchor hp, Bool.or_false]
      rw [contentEnds, contentEnds, anyEndsRepeated_append, anyEndsRepeated_append, anyEndsRepeated, anyEndsRepeated,
        hbranch]

theorem any_all_eq (p : Piece) (f : Piece → Bool) : p.all.any f = (f p || p.inner.any f) := by
  rw [all_eq_cons, List.any_cons]

theorem nestsQuantifiers_bare (p : Piece) : p.bare.nestsQuantifiers = false := by
  rw [nestsQuantifiers_eq, repeats_bare, Bool.false_and]

/-- Groups that do not repeat nest no quantifiers, whatever their alternatives end in. -/
theorem Encloses.any_nestsQuantifiers_of_quiet (h : p.Encloses w p')
    (hquiet : ∀ v q, v <+: w → v ≠ w → p.at? v = some q → q.repeats = false) :
    p'.all.any nestsQuantifiers = p.all.any nestsQuantifiers := by
  induction h with
  | here p bareText text =>
      have hgroup : (Piece.group [[p.bare]] ⟨p.quantifier, bareText, text⟩).nestsQuantifiers = p.nestsQuantifiers := by
        rw [nestsQuantifiers_eq, nestsQuantifiers_eq, contentEnds_here]
        rfl
      simp [any_all_eq, allOfBranches, allOfBranch, nestsQuantifiers_bare, hgroup]
  | stacked => rfl
  | @inside above below before after place p p' label h bareText text ih =>
      have hgroup : (Piece.group (above ++ (before ++ p :: after) :: below) label).repeats = false :=
        hquiet [] _ List.nil_prefix (List.cons_ne_nil _ _).symm rfl
      have hgroup' : (Piece.group (above ++ (before ++ p' :: after) :: below)
          ⟨label.quantifier, bareText, text⟩).repeats = false := hgroup
      have hchild := ih fun v q hv hne hq => hquiet (_ :: v) q (List.cons_prefix_cons.2 ⟨rfl, hv⟩)
        (fun heq => hne (List.cons.inj heq).2) (by rw [at?_group_around, hq])
      rw [any_all_eq, any_all_eq, nestsQuantifiers_eq, nestsQuantifiers_eq, hgroup, hgroup', inner_group, inner_group,
        allOfBranches_around, allOfBranches_around]
      simp only [List.any_append, hchild, Bool.false_and]

theorem Encloses.any_nestsQuantifiers_of_ends (h : p.Encloses w p')
    (hkeeps : ∀ before q after, p.Stands w before q after → q.isAnchor = true →
      (∃ r ∈ after, r.isAnchor = false) ∨ (EndsRepeating before ↔ q.repeats = true)) :
    p'.all.any nestsQuantifiers = p.all.any nestsQuantifiers := by
  have hhead : p'.nestsQuantifiers = p.nestsQuantifiers := by
    rw [nestsQuantifiers_eq, nestsQuantifiers_eq, h.repeats_eq, h.contentEnds_eq hkeeps]
  rw [any_all_eq, any_all_eq, hhead]
  refine congrArg (fun b => p.nestsQuantifiers || b) ?_
  clear hhead
  induction h with
  | here p => simp [any_all_eq, allOfBranches, allOfBranch, nestsQuantifiers_bare]
  | stacked => rfl
  | @inside above below before after place p p' label h bareText text ih =>
      have hchild : ∀ before q after, p.Stands place before q after → q.isAnchor = true →
          (∃ r ∈ after, r.isAnchor = false) ∨ (EndsRepeating before ↔ q.repeats = true) :=
        fun before q after hq => hkeeps before q after (.inside hq)
      simp only [inner_group, allOfBranches_around, List.any_append, any_all_eq p, any_all_eq p', nestsQuantifiers_eq p,
        nestsQuantifiers_eq p', h.repeats_eq, h.contentEnds_eq hchild, ih hchild]

/-- Quantifiers nest behind the change exactly if they nested before. -/
theorem Encloses.any_nestsQuantifiers (h : p.Encloses w p') (hkeeps : p.KeepsEnds w) :
    p'.all.any nestsQuantifiers = p.all.any nestsQuantifiers := by
  by_cases hquiet : ∀ v q, v <+: w → v ≠ w → p.at? v = some q → q.repeats = false
  · exact h.any_nestsQuantifiers_of_quiet hquiet
  · refine h.any_nestsQuantifiers_of_ends fun before q after hq hanchor => ?_
    rcases hkeeps before q after hq hanchor with hkept | hkept | hkept
    · exact .inl hkept
    · exact .inr hkept
    · exact absurd hkept hquiet

/-! ### Starts -/

/-- Whether the piece is a repeated group with alternatives that begin alike. -/
def overlaps (p : Piece) : Bool :=
  p.overlap?.isSome

theorem overlaps_eq_false_of_repeats (h : p.repeats = false) : p.overlaps = false := by
  cases p with
  | leaf kind label => rfl
  | group branches label =>
      have h : label.quantifier.any Quantifier.repeats = false := h
      rw [overlaps, overlap?, h]
      rfl

theorem overlaps_group_singleton (b : List Piece) (label : Label) : (Piece.group [b] label).overlaps = false := by
  have hnone : sharedStart [b] = none := by
    rw [sharedStart, firstRepeated_eq_none_iff]
    cases b with
    | nil => exact List.nodup_nil
    | cons p b => exact List.nodup_singleton _
  rw [overlaps, overlap?, hnone]
  split <;> rfl

end Piece

/-- What the alternatives begin with. -/
def startsOf (branches : List (List Piece)) : List String :=
  branches.filterMap fun b => b.head?.map (·.label.bareText)

theorem isSome_sharedStart (branches : List (List Piece)) :
    (sharedStart branches).isSome = !decide (startsOf branches).Nodup := by
  rw [Bool.eq_iff_iff, Bool.not_eq_true', decide_eq_false_iff_not, ← firstRepeated_eq_none_iff, sharedStart, startsOf,
    Option.isSome_iff_ne_none]

/-- What one of the other alternatives begins with is the text of the piece at its start. -/
theorem exists_start {above below : List (List Piece)} {t : String} (h : t ∈ startsOf above ++ startsOf below)
    (b : List Piece) (label : Label) : ∃ j p, j ≠ above.length ∧
      (Piece.group (above ++ b :: below) label).at? [(j, 0)] = some p ∧ p.label.bareText = t := by
  have hstart {branches : List (List Piece)} (h : t ∈ startsOf branches) :
      ∃ j p, j < branches.length ∧ (branches[j]?.bind (·[0]?)) = some p ∧ p.label.bareText = t := by
    obtain ⟨b, hb, ht⟩ := List.mem_filterMap.1 h
    obtain ⟨j, hj, rfl⟩ := List.mem_iff_getElem.1 hb
    obtain ⟨p, hp, ht⟩ := Option.map_eq_some_iff.1 ht
    refine ⟨j, p, hj, ?_, ht⟩
    rw [List.getElem?_eq_getElem hj, Option.bind_some, ← List.head?_eq_getElem?, hp]
  rcases List.mem_append.1 h with h | h
  · obtain ⟨j, p, hj, hp, ht⟩ := hstart h
    refine ⟨j, p, Nat.ne_of_lt hj, ?_, ht⟩
    rw [Piece.at?, List.getElem?_append_left hj, hp]
    rfl
  · obtain ⟨j, p, -, hp, ht⟩ := hstart h
    refine ⟨above.length + 1 + j, p, by omega, ?_, ht⟩
    rw [Piece.at?, List.getElem?_append_right (by omega), show above.length + 1 + j - above.length = j + 1 by omega,
      List.getElem?_cons_succ, hp]
    rfl

/-- Of one text among others only that counts which of the others are the same. -/
theorem nodup_middle_congr {ts us : List String} {t t' : String} (ht : t ∉ ts ++ us) (ht' : t' ∉ ts ++ us) :
    (ts ++ t' :: us).Nodup ↔ (ts ++ t :: us).Nodup := by
  rw [List.nodup_middle, List.nodup_middle, List.nodup_cons, List.nodup_cons, and_iff_right ht, and_iff_right ht']

namespace Piece

variable {p p' : Piece} {w : Place}

theorem KeepsStarts.inside {above below : List (List Piece)} {before after : List Piece} {place : Place} {label label' : Label}
    (h : KeepsStarts (.group (above ++ (before ++ p :: after) :: below) label)
      (.group (above ++ (before ++ p' :: after) :: below) label') ((above.length, before.length) :: place)) :
    p.KeepsStarts p' place where
  own q hq := h.own q (by rw [at?_group_around, hq])
  around v i u g hw hg hrepeats j q first hj hq hfirst := by
    refine h.around (_ :: v) i u g (congrArg (_ :: ·) hw) ?_ hrepeats j q first hj ?_ ?_
    · rw [at?_group_around, hg]
    · rw [List.cons_append, at?_group_around, hq]
    · rw [List.cons_append, at?_group_around, at?_group_around]
      exact hfirst

/-- A group overlaps behind the change exactly if it did before. -/
theorem KeepsStarts.overlaps_eq {above below : List (List Piece)} {before after : List Piece} {place : Place} {label : Label}
    {bareText text : String}
    (h : KeepsStarts (.group (above ++ (before ++ p :: after) :: below) label)
      (.group (above ++ (before ++ p' :: after) :: below) ⟨label.quantifier, bareText, text⟩)
        ((above.length, before.length) :: place)) :
    (Piece.group (above ++ (before ++ p' :: after) :: below) ⟨label.quantifier, bareText, text⟩).overlaps =
      (Piece.group (above ++ (before ++ p :: after) :: below) label).overlaps := by
  cases hrepeats : (Piece.group (above ++ (before ++ p :: after) :: below) label).repeats with
  | false =>
      have hrepeats' : (Piece.group (above ++ (before ++ p' :: after) :: below)
          ⟨label.quantifier, bareText, text⟩).repeats = false := hrepeats
      rw [overlaps_eq_false_of_repeats hrepeats, overlaps_eq_false_of_repeats hrepeats']
  | true =>
      have hquantifier : label.quantifier.any Quantifier.repeats = true := hrepeats
      rw [overlaps, overlaps, overlap?, overlap?, if_pos hquantifier, if_pos hquantifier, isSome_sharedStart,
        isSome_sharedStart]
      cases before with
      | cons first before => simp [startsOf]
      | nil =>
          have hsplit (q : Piece) : startsOf (above ++ ([] ++ q :: after) :: below) =
              startsOf above ++ q.label.bareText :: startsOf below := by
            simp [startsOf]
          have hfresh (first : Piece) (hfirst : first = p ∨ first = p') :
              first.label.bareText ∉ startsOf above ++ startsOf below := by
            intro hmem
            obtain ⟨j, q, hj, hq, ht⟩ := exists_start hmem ([] ++ p :: after) label
            refine h.around [] above.length place _ rfl rfl hrepeats j q first hj hq ?_ ht
            rcases hfirst with rfl | rfl
            · exact .inl (at?_group_around [])
            · exact .inr (at?_group_around [])
          rw [hsplit, hsplit, decide_eq_decide.2 (nodup_middle_congr (hfresh p (.inl rfl)) (hfresh p' (.inr rfl)))]

/-- Alternatives overlap behind the change exactly if they did before. -/
theorem Encloses.any_overlaps (h : p.Encloses w p') (hkeeps : p.KeepsStarts p' w) :
    p'.all.any overlaps = p.all.any overlaps := by
  induction h with
  | here p bareText text =>
      have hp : p.overlaps = false := by rw [overlaps, hkeeps.own p rfl]; rfl
      have hbare : p.bare.overlaps = false := overlaps_eq_false_of_repeats p.repeats_bare
      simp [any_all_eq, allOfBranches, allOfBranch, hp, hbare, overlaps_group_singleton]
  | stacked => simp [any_all_eq, overlaps_group_singleton]
  | @inside above below before after place p p' label h bareText text ih =>
      rw [any_all_eq, any_all_eq, hkeeps.overlaps_eq]
      simp only [inner_group, allOfBranches_around, List.any_append, ih hkeeps.inside]

end Piece

/-! ### Outlines -/

/-- An outline as a single piece: a group without a quantifier. -/
def whole (outline : Outline) : Piece :=
  .group outline ⟨none, "", ""⟩

variable {outline outline' : Outline} {w : Place}

theorem findsNesting_eq_any_all : findsNesting outline = (whole outline).all.any Piece.nestsQuantifiers := rfl

theorem findsOverlap_eq_any_all : findsOverlap outline = (whole outline).all.any Piece.overlaps := rfl

theorem length_bearers_eq_countP (kind : Leaf) (suits : Quantifier → Bool) :
    (bearers outline kind suits).length = (whole outline).all.countP (Piece.bears kind suits) := by
  have hwhole : (whole outline).bears kind suits = false := by
    rw [Piece.bears]
    exact Bool.and_false _
  rw [Piece.all_eq_cons, List.countP_cons_of_neg (by rw [hwhole]; exact Bool.false_ne_true), List.countP_eq_length_filter]
  rfl

/-- What a group around a piece changes about the verdict on an outline. It adds no wildcard and takes none away. The same
reason is told exactly if quantifiers nest as before and, as far as it matters, alternatives overlap as before; and that is
so if the end of the alternative and the starts of those around are not affected. -/
theorem reason?_inspect_of_encloses (h : (whole outline).Encloses w (whole outline')) :
    (HasManyWildcards outline' ↔ HasManyWildcards outline) ∧
    (reason? (inspect outline') = reason? (inspect outline) ↔
      (NestsQuantifiers outline' ↔ NestsQuantifiers outline) ∧
      (¬NestsQuantifiers outline → ¬HasManyWildcards outline → (Overlaps outline' ↔ Overlaps outline))) ∧
    ((whole outline).KeepsEnds w → (NestsQuantifiers outline' ↔ NestsQuantifiers outline)) ∧
    ((whole outline).KeepsStarts (whole outline') w → (Overlaps outline' ↔ Overlaps outline)) := by
  have hwildcards : (bearers outline' .wildcard Quantifier.unbounded).length =
      (bearers outline .wildcard Quantifier.unbounded).length := by
    rw [length_bearers_eq_countP, length_bearers_eq_countP, h.countP_bears]
  have hmany : HasManyWildcards outline' ↔ HasManyWildcards outline := by
    rw [← hasManyWildcards_iff, ← hasManyWildcards_iff, hwildcards]
  refine ⟨hmany, ?_, fun hkeeps => ?_, fun hkeeps => ?_⟩
  · rw [reason?_inspect, reason?_inspect, ← findsNesting_iff, ← findsNesting_iff, ← findsOverlap_iff, ← findsOverlap_iff,
      ← hasManyWildcards_iff, hwildcards]
    by_cases hfew : 2 ≤ (bearers outline .wildcard Quantifier.unbounded).length <;> cases findsNesting outline <;>
      cases findsNesting outline' <;> cases findsOverlap outline <;> cases findsOverlap outline' <;> simp [hfew]
  · rw [← findsNesting_iff, ← findsNesting_iff, findsNesting_eq_any_all, findsNesting_eq_any_all,
      h.any_nestsQuantifiers hkeeps]
  · rw [← findsOverlap_iff, ← findsOverlap_iff, findsOverlap_eq_any_all, findsOverlap_eq_any_all, h.any_overlaps hkeeps]

end Attest.Pattern

import Attest.Pattern.Vetting
import Attest.Proofs.Pattern.Place

/-!
What is looked for in a pattern, said of the whole outline and without searching it. A pattern nests quantifiers if a
repeated group ends in something repeated, it has many wildcards if two of them are unbounded, and it overlaps if
two alternatives of a repeated group begin alike.

Vetting finds what is there, and of several reasons it tells the first: the length, a pattern that cannot be read,
these three in this order, and last an expression that the engine refuses.
-/

namespace Attest.Pattern

/-- Why a pattern is rejected, without the particulars. -/
inductive Reason
  | tooLong
  | malformed
  | nestedQuantifiers
  | manyWildcards
  | overlappingAlternatives
  deriving DecidableEq, Repr

def Rejection.reason : Rejection → Reason
  | .tooLong _ _ => .tooLong
  | .malformed => .malformed
  | .nestedQuantifiers _ => .nestedQuantifiers
  | .manyWildcards _ => .manyWildcards
  | .overlappingAlternatives _ _ => .overlappingAlternatives

/-- The reason of a rejection; none if there is none. -/
def reason? {α : Type} : Except Rejection α → Option Reason
  | .ok _ => none
  | .error rejection => some rejection.reason

/-! ### Hazards -/

/-- An alternative whose last piece repeats, anchors at its end apart, or whose last piece is a group that does not
repeat and has such an alternative. -/
inductive EndsRepeating : List Piece → Prop
  | here {before after : List Piece} {p : Piece} (hafter : ∀ q ∈ after, q.isAnchor = true)
      (hp : p.isAnchor = false) (hrepeats : p.repeats = true) : EndsRepeating (before ++ p :: after)
  | inside {before after : List Piece} {branches : List (List Piece)} {label : Label} {b : List Piece}
      (hafter : ∀ q ∈ after, q.isAnchor = true) (hrepeats : (Piece.group branches label).repeats = false)
      (hb : b ∈ branches) (h : EndsRepeating b) : EndsRepeating (before ++ .group branches label :: after)

/-- Some group that repeats has an alternative that ends in something repeated. -/
def NestsQuantifiers (outline : Outline) : Prop :=
  ∃ w branches label, pieceAt? outline w = some (.group branches label) ∧
    (Piece.group branches label).repeats = true ∧ ∃ b ∈ branches, EndsRepeating b

/-- Two wildcards are in the reach of quantifiers without a bound. -/
def HasManyWildcards (outline : Outline) : Prop :=
  ∃ w w' p p', w ≠ w' ∧ Bears outline .wildcard Quantifier.unbounded w p ∧
    Bears outline .wildcard Quantifier.unbounded w' p'

/-- Some group that repeats has two alternatives whose first pieces are written alike. -/
def Overlaps (outline : Outline) : Prop :=
  ∃ w branches label, pieceAt? outline w = some (.group branches label) ∧
    (Piece.group branches label).repeats = true ∧ ∃ (i j : Nat) (p q : Piece) (ps qs : List Piece), i < j ∧
      branches[i]? = some (p :: ps) ∧ branches[j]? = some (q :: qs) ∧ p.label.bareText = q.label.bareText

/-- What an outline without hazards is warned of: its unbounded wildcard, or else its quantified class if there is just
one. -/
def Warns (outline : Outline) : Option Warning → Prop
  | some (.wildcard text) => ∃ w p, Bears outline .wildcard Quantifier.unbounded w p ∧ p.label.text = text ∧
      ∀ w' p', Bears outline .wildcard Quantifier.unbounded w' p' → w' = w
  | some (.charClass text) => (∀ w p, ¬Bears outline .wildcard Quantifier.unbounded w p) ∧
      ∃ w p, Bears outline .charClass (fun _ => true) w p ∧ p.label.text = text ∧
        ∀ w' p', Bears outline .charClass (fun _ => true) w' p' → w' = w
  | none => (∀ w p, ¬Bears outline .wildcard Quantifier.unbounded w p) ∧
      ¬∃ w p, Bears outline .charClass (fun _ => true) w p ∧
        ∀ w' p', Bears outline .charClass (fun _ => true) w' p' → w' = w

/-! ### Ends -/

theorem EndsRepeating.cons {b : List Piece} (h : EndsRepeating b) (p : Piece) : EndsRepeating (p :: b) := by
  cases h with
  | here hafter hp hrepeats => exact @EndsRepeating.here (p :: _) _ _ hafter hp hrepeats
  | inside hafter hrepeats hb h => exact @EndsRepeating.inside (p :: _) _ _ _ _ hafter hrepeats hb h

theorem EndsRepeating.exists_no_anchor {b : List Piece} (h : EndsRepeating b) : ∃ p ∈ b, p.isAnchor = false := by
  cases h with
  | here _ hp _ => exact ⟨_, by simp, hp⟩
  | inside _ _ _ _ => exact ⟨_, List.mem_append_right _ List.mem_cons_self, rfl⟩

theorem endsRepeating_cons_iff {p : Piece} {ps : List Piece} : EndsRepeating (p :: ps) ↔ EndsRepeating ps ∨
    (∀ q ∈ ps, q.isAnchor = true) ∧ (p.isAnchor = false ∧ p.repeats = true ∨
      ∃ branches label b, p = .group branches label ∧ p.repeats = false ∧ b ∈ branches ∧ EndsRepeating b) := by
  constructor
  · intro h
    generalize hb : p :: ps = b at h
    cases h with
    | @here before after p' hafter hp hrepeats =>
        cases before with
        | nil =>
            obtain ⟨rfl, rfl⟩ := List.cons.inj hb
            exact .inr ⟨hafter, .inl ⟨hp, hrepeats⟩⟩
        | cons _ before =>
            obtain ⟨-, rfl⟩ := List.cons.inj hb
            exact .inl (.here hafter hp hrepeats)
    | @inside before after branches label b hafter hrepeats hmem h =>
        cases before with
        | nil =>
            obtain ⟨rfl, rfl⟩ := List.cons.inj hb
            exact .inr ⟨hafter, .inr ⟨branches, label, b, rfl, hrepeats, hmem, h⟩⟩
        | cons _ before =>
            obtain ⟨-, rfl⟩ := List.cons.inj hb
            exact .inl (.inside hafter hrepeats hmem h)
  · rintro (h | ⟨hafter, ⟨hp, hrepeats⟩ | ⟨branches, label, b, rfl, hrepeats, hb, h⟩⟩)
    · exact h.cons p
    · exact @EndsRepeating.here [] _ _ hafter hp hrepeats
    · exact @EndsRepeating.inside [] _ _ _ _ hafter hrepeats hb h

mutual

theorem Piece.endsRepeated_iff : ∀ p : Piece, p.endsRepeated = true ↔
    p.repeats = true ∨ ∃ branches label b, p = .group branches label ∧ b ∈ branches ∧ EndsRepeating b
  | .leaf kind label => by simp [Piece.endsRepeated, Piece.repeats, Piece.quantifier, Piece.label]
  | .group branches label => by
      rw [Piece.endsRepeated, Bool.or_eq_true, anyEndsRepeated_iff]
      refine or_congr_right ⟨fun ⟨b, hb, h⟩ => ⟨branches, label, b, rfl, hb, h⟩, ?_⟩
      rintro ⟨_, _, b, heq, hb, h⟩
      obtain ⟨rfl, rfl⟩ := Piece.group.inj heq
      exact ⟨b, hb, h⟩
termination_by structural p => p

theorem anyEndsRepeated_iff : ∀ bs : List (List Piece), anyEndsRepeated bs = true ↔ ∃ b ∈ bs, EndsRepeating b
  | [] => by simp [anyEndsRepeated]
  | b :: bs => by
      rw [anyEndsRepeated, Bool.or_eq_true, branchEndsRepeated_iff, anyEndsRepeated_iff]
      simp
termination_by structural bs => bs

theorem branchEndsRepeated_iff : ∀ b : List Piece, branchEndsRepeated b = true ↔ EndsRepeating b
  | [] => iff_of_false Bool.false_ne_true fun h => by
      obtain ⟨p, hp, -⟩ := h.exists_no_anchor
      cases hp
  | p :: ps => by
      rw [branchEndsRepeated, endsRepeating_cons_iff, ← branchEndsRepeated_iff ps]
      by_cases hps : ps.all Piece.isAnchor = true
      · have hanchors : ∀ q ∈ ps, q.isAnchor = true := List.all_eq_true.1 hps
        have hrest : ¬branchEndsRepeated ps = true := fun h => by
          obtain ⟨q, hq, hno⟩ := ((branchEndsRepeated_iff ps).1 h).exists_no_anchor
          rw [hanchors q hq] at hno
          cases hno
        rw [if_pos hps, or_iff_right hrest, and_iff_right hanchors, Bool.and_eq_true, Bool.not_eq_true',
          Piece.endsRepeated_iff p]
        cases p with
        | leaf kind label => simp
        | group branches label => cases hrepeats : (Piece.group branches label).repeats <;> simp [Piece.isAnchor]
      · rw [if_neg hps]
        exact (or_iff_left fun h => hps (List.all_eq_true.2 h.1)).symm
termination_by structural b => b

end

/-! ### Beginnings -/

theorem firstRepeated_eq_none_iff {ts : List String} : firstRepeated ts = none ↔ ts.Nodup := by
  induction ts with
  | nil => simp [firstRepeated]
  | cons t ts ih =>
      rw [firstRepeated, List.nodup_cons]
      by_cases h : t ∈ ts
      · simp [h]
      · rw [if_neg h, ih]
        exact (and_iff_right h).symm

theorem sharedStart_isSome_iff {branches : List (List Piece)} : (sharedStart branches).isSome = true ↔
    ∃ (i j : Nat) (p q : Piece) (ps qs : List Piece), i < j ∧ branches[i]? = some (p :: ps) ∧
      branches[j]? = some (q :: qs) ∧ p.label.bareText = q.label.bareText := by
  have hstart {b : List Piece} {t : String} :
      (b.head?.map (·.label.bareText)) = some t ↔ ∃ p ps, b = p :: ps ∧ p.label.bareText = t := by
    cases b <;> simp
  rw [← not_iff_not, Bool.not_eq_true, Option.isSome_eq_false_iff, Option.isNone_iff_eq_none, sharedStart,
    firstRepeated_eq_none_iff, List.Nodup, List.pairwise_filterMap, List.pairwise_iff_getElem]
  constructor
  · rintro hdistinct ⟨i, j, p, q, ps, qs, hij, hp, hq, htext⟩
    obtain ⟨hi, hp⟩ := List.getElem?_eq_some_iff.1 hp
    obtain ⟨hj, hq⟩ := List.getElem?_eq_some_iff.1 hq
    exact hdistinct i j hi hj hij _ (hstart.2 ⟨p, ps, hp, rfl⟩) _ (hstart.2 ⟨q, qs, hq, rfl⟩) htext
  · intro h i j hi hj hij t ht t' ht' htext
    obtain ⟨p, ps, hp, rfl⟩ := hstart.1 ht
    obtain ⟨q, qs, hq, rfl⟩ := hstart.1 ht'
    exact h ⟨i, j, p, q, ps, qs, hij, List.getElem?_eq_some_iff.2 ⟨hi, hp⟩, List.getElem?_eq_some_iff.2 ⟨hj, hq⟩, htext⟩

/-! ### Finding what is there -/

/-- Whether a piece with nested quantifiers is found. -/
def findsNesting (outline : Outline) : Bool :=
  (allOfBranches outline).any Piece.nestsQuantifiers

/-- Whether a group whose alternatives overlap is found. -/
def findsOverlap (outline : Outline) : Bool :=
  (allOfBranches outline).any (·.overlap?.isSome)

variable {outline : Outline}

theorem findsNesting_iff : findsNesting outline = true ↔ NestsQuantifiers outline := by
  rw [findsNesting, List.any_eq_true]
  constructor
  · rintro ⟨p, hp, hnests⟩
    obtain ⟨w, hw⟩ := mem_allOfBranches.1 hp
    cases p with
    | leaf kind label => cases hnests
    | group branches label =>
        obtain ⟨hrepeats, hends⟩ := Bool.and_eq_true_iff.1 hnests
        exact ⟨w, branches, label, hw, hrepeats, (anyEndsRepeated_iff branches).1 hends⟩
  · rintro ⟨w, branches, label, hw, hrepeats, hends⟩
    exact ⟨_, mem_allOfBranches.2 ⟨w, hw⟩, Bool.and_eq_true_iff.2 ⟨hrepeats, (anyEndsRepeated_iff branches).2 hends⟩⟩

theorem findsOverlap_iff : findsOverlap outline = true ↔ Overlaps outline := by
  rw [findsOverlap, List.any_eq_true]
  constructor
  · rintro ⟨p, hp, hshared⟩
    obtain ⟨w, hw⟩ := mem_allOfBranches.1 hp
    cases p with
    | leaf kind label => cases hshared
    | group branches label =>
        rw [Piece.overlap?] at hshared
        split at hshared
        next hrepeats => exact ⟨w, branches, label, hw, hrepeats, sharedStart_isSome_iff.1 hshared⟩
        next => cases hshared
  · rintro ⟨w, branches, label, hw, hrepeats, hshared⟩
    refine ⟨_, mem_allOfBranches.2 ⟨w, hw⟩, ?_⟩
    have hrepeats : label.quantifier.any Quantifier.repeats = true := hrepeats
    rw [Piece.overlap?, if_pos hrepeats]
    exact sharedStart_isSome_iff.2 hshared

theorem two_le_bearers_iff {kind : Leaf} {suits : Quantifier → Bool} : 2 ≤ (bearers outline kind suits).length ↔
    ∃ w w' p p', w ≠ w' ∧ Bears outline kind suits w p ∧ Bears outline kind suits w' p' := by
  obtain ⟨leaves, htexts, hnodup, hmem⟩ := exists_leaves outline kind suits
  rw [← htexts, List.length_map]
  constructor
  · intro hlength
    match leaves, hlength with
    | (w, p) :: (w', p') :: rest, _ =>
        refine ⟨w, w', p, p', ?_, (hmem w p).1 (by simp), (hmem w' p').1 (by simp)⟩
        rintro rfl
        simp at hnodup
  · rintro ⟨w, w', p, p', hne, hw, hw'⟩
    have hw := (hmem w p).2 hw
    have hw' := (hmem w' p').2 hw'
    match leaves with
    | [] => cases hw
    | [x] =>
        have hx := List.mem_singleton.1 hw
        have hx' := List.mem_singleton.1 hw'
        exact absurd (congrArg Prod.fst (hx.trans hx'.symm)) hne
    | _ :: _ :: rest => simp

theorem bearers_eq_nil_iff {kind : Leaf} {suits : Quantifier → Bool} :
    bearers outline kind suits = [] ↔ ∀ w p, ¬Bears outline kind suits w p := by
  obtain ⟨leaves, htexts, -, hmem⟩ := exists_leaves outline kind suits
  rw [← htexts, List.map_eq_nil_iff, List.eq_nil_iff_forall_not_mem]
  simp only [← hmem, Prod.forall]

theorem exists_bearers_eq_singleton_iff {kind : Leaf} {suits : Quantifier → Bool} {good : Piece → Prop} :
    (∃ p, bearers outline kind suits = [p] ∧ good p) ↔ ∃ w p, Bears outline kind suits w p ∧ good p ∧
      ∀ w' p', Bears outline kind suits w' p' → w' = w := by
  obtain ⟨leaves, htexts, hnodup, hmem⟩ := exists_leaves outline kind suits
  rw [← htexts]
  constructor
  · rintro ⟨p, hp, hgood⟩
    obtain ⟨⟨w, q⟩, rfl, rfl⟩ := List.map_eq_singleton_iff.1 hp
    refine ⟨w, q, (hmem w q).1 (List.mem_singleton_self _), hgood, fun w' p' h => ?_⟩
    exact congrArg Prod.fst (List.mem_singleton.1 ((hmem w' p').2 h))
  · rintro ⟨w, p, hp, hgood, hunique⟩
    have hp := (hmem w p).2 hp
    have hplace : ∀ x ∈ leaves, x.1 = w := fun x hx => hunique x.1 x.2 ((hmem x.1 x.2).1 hx)
    match leaves with
    | [] => cases hp
    | [x] => exact ⟨p, by rw [← List.mem_singleton.1 hp, List.map_singleton], hgood⟩
    | x :: y :: rest =>
        have hx := hplace x (by simp)
        have hy := hplace y (by simp)
        simp [hx, hy] at hnodup

/-! ### The verdict -/

theorem filter_isUnboundedWildcard : (allOfBranches outline).filter Piece.isUnboundedWildcard =
    bearers outline .wildcard Quantifier.unbounded :=
  rfl

theorem filter_isQuantifiedClass : (allOfBranches outline).filter Piece.isQuantifiedClass =
    bearers outline .charClass fun _ => true := by
  refine List.filter_congr fun p _ => ?_
  rw [Piece.isQuantifiedClass]
  cases p.quantifier <;> rfl

theorem isSome_find?_nestsQuantifiers :
    ((allOfBranches outline).find? Piece.nestsQuantifiers).isSome = findsNesting outline := by
  rw [Bool.eq_iff_iff, List.find?_isSome, findsNesting, List.any_eq_true]

theorem isSome_findSome?_overlap? :
    ((allOfBranches outline).findSome? fun p => p.overlap?.map fun shared => (p, shared)).isSome =
      findsOverlap outline := by
  rw [List.isSome_findSome?, findsOverlap]
  simp only [Option.isSome_map]

/-- Of the reasons against an outline inspection tells the first. -/
theorem reason?_inspect (outline : Outline) : reason? (inspect outline) =
    if findsNesting outline then some .nestedQuantifiers
    else if 2 ≤ (bearers outline .wildcard Quantifier.unbounded).length then some .manyWildcards
    else if findsOverlap outline then some .overlappingAlternatives
    else none := by
  rw [inspect, walkBranches_none, ← isSome_find?_nestsQuantifiers, ← isSome_findSome?_overlap?,
    ← filter_isUnboundedWildcard]
  cases (allOfBranches outline).find? Piece.nestsQuantifiers with
  | some p => rfl
  | none =>
      dsimp only
      split
      · rfl
      · cases (allOfBranches outline).findSome? fun p => p.overlap?.map fun shared => (p, shared) <;> rfl

theorem inspect_of_reason?_eq_none (h : reason? (inspect outline) = none) :
    inspect outline = .ok (warningOf (bearers outline .wildcard Quantifier.unbounded)
      (bearers outline .charClass fun _ => true)) := by
  rw [inspect, walkBranches_none] at h ⊢
  rw [← filter_isUnboundedWildcard, ← filter_isQuantifiedClass]
  dsimp only at h ⊢
  -- Each verdict but the last gives a reason.
  split at h
  · cases h
  · split_ifs at h ⊢
    · cases h
    · split at h
      · cases h
      · rfl

theorem hasManyWildcards_iff : 2 ≤ (bearers outline .wildcard Quantifier.unbounded).length ↔ HasManyWildcards outline :=
  two_le_bearers_iff

/-- The warning goes by leaves: one unbounded wildcard, or else one quantified class. -/
theorem warns_iff (hfew : ¬HasManyWildcards outline) {warning : Option Warning} : Warns outline warning ↔
    warning = warningOf (bearers outline .wildcard Quantifier.unbounded) (bearers outline .charClass fun _ => true) := by
  have hwildcard (good : Piece → Prop) := @exists_bearers_eq_singleton_iff outline .wildcard Quantifier.unbounded good
  have hclass (good : Piece → Prop) := @exists_bearers_eq_singleton_iff outline .charClass (fun _ => true) good
  have hlone : (∃ w p, Bears outline .charClass (fun _ => true) w p ∧
        ∀ w' p', Bears outline .charClass (fun _ => true) w' p' → w' = w) ↔
      ∃ p, bearers outline .charClass (fun _ => true) = [p] := by
    simpa using (hclass fun _ => True).symm
  rw [← hasManyWildcards_iff] at hfew
  rcases hwildcards : bearers outline .wildcard Quantifier.unbounded with _ | ⟨p, _ | ⟨q, rest⟩⟩
  · have hnone := bearers_eq_nil_iff.1 hwildcards
    match warning with
    | none =>
        rw [Warns, hlone, and_iff_right hnone]
        rcases bearers outline .charClass (fun _ => true) with _ | ⟨p, _ | ⟨q, rest⟩⟩ <;> simp [warningOf]
    | some (.wildcard text) =>
        refine iff_of_false (fun ⟨w, p, hp, _⟩ => hnone w p hp) ?_
        rcases bearers outline .charClass (fun _ => true) with _ | ⟨p, _ | ⟨q, rest⟩⟩ <;> simp [warningOf]
    | some (.charClass text) =>
        rw [Warns, ← hclass fun p => p.label.text = text, and_iff_right hnone]
        rcases bearers outline .charClass (fun _ => true) with _ | ⟨p, _ | ⟨q, rest⟩⟩ <;> simp [warningOf, eq_comm]
  · have hsome : ¬∀ w p, ¬Bears outline .wildcard Quantifier.unbounded w p := by
      rw [← bearers_eq_nil_iff, hwildcards]
      exact List.cons_ne_nil _ _
    match warning with
    | none => exact iff_of_false (fun h => hsome h.1) (by simp [warningOf])
    | some (.wildcard text) =>
        rw [Warns, ← hwildcard fun p => p.label.text = text, hwildcards]
        simp [warningOf, eq_comm]
    | some (.charClass text) => exact iff_of_false (fun h => hsome h.1) (by simp [warningOf])
  · rw [hwildcards] at hfew
    exact absurd (by simp) hfew

theorem reason?_inspect_iff (outline : Outline) :
    (reason? (inspect outline) = some .nestedQuantifiers ↔ NestsQuantifiers outline) ∧
    (reason? (inspect outline) = some .manyWildcards ↔ ¬NestsQuantifiers outline ∧ HasManyWildcards outline) ∧
    (reason? (inspect outline) = some .overlappingAlternatives ↔
      ¬NestsQuantifiers outline ∧ ¬HasManyWildcards outline ∧ Overlaps outline) ∧
    (reason? (inspect outline) = none ↔
      ¬NestsQuantifiers outline ∧ ¬HasManyWildcards outline ∧ ¬Overlaps outline) := by
  rw [reason?_inspect, ← findsNesting_iff, ← hasManyWildcards_iff, ← findsOverlap_iff]
  by_cases hnests : findsNesting outline = true
  · simp [hnests]
  · by_cases hmany : 2 ≤ (bearers outline .wildcard Quantifier.unbounded).length
    · simp [hnests, hmany]
    · by_cases hoverlaps : findsOverlap outline = true <;> simp [hnests, hmany, hoverlaps]

/-- The only reasons that an outline gives are those of inspection. -/
theorem reason?_inspect_ne (outline : Outline) :
    reason? (inspect outline) ≠ some .tooLong ∧ reason? (inspect outline) ≠ some .malformed := by
  rw [reason?_inspect]
  split_ifs <;> decide

theorem inspect_eq_ok_iff {warning : Option Warning} : inspect outline = .ok warning ↔
    ¬NestsQuantifiers outline ∧ ¬HasManyWildcards outline ∧ ¬Overlaps outline ∧ Warns outline warning := by
  obtain ⟨-, -, -, hnone⟩ := reason?_inspect_iff outline
  constructor
  · intro h
    have hfree := hnone.1 (by rw [h]; rfl)
    have hwarning := inspect_of_reason?_eq_none (hnone.2 hfree)
    rw [h, Except.ok.injEq] at hwarning
    exact ⟨hfree.1, hfree.2.1, hfree.2.2, (warns_iff hfree.2.1).2 hwarning⟩
  · rintro ⟨hnests, hmany, hoverlaps, hwarns⟩
    rw [inspect_of_reason?_eq_none (hnone.2 ⟨hnests, hmany, hoverlaps⟩), (warns_iff hmany).1 hwarns]

/-- Of the reasons against a pattern vetting tells the first. -/
theorem reason?_vet (limit : Nat) (pattern : String) : reason? (vet limit pattern) =
    if limit < pattern.length then some .tooLong
    else match Regex.Ast.read? pattern with
      | none => some .malformed
      | some ast => (reason? (inspect (ast.outline pattern))).or
          (if Regex.ofAst? pattern ast = none then some .malformed else none) := by
  rw [vet, checkLength]
  split
  · rfl
  · change reason? (vetAnyLength pattern) = _
    rw [vetAnyLength]
    cases Regex.Ast.read? pattern with
    | none => rfl
    | some ast =>
        simp only
        cases inspect (ast.outline pattern) with
        | error rejection => rfl
        | ok warning =>
            simp only [bind, Except.bind]
            cases Regex.ofAst? pattern ast <;> rfl

/-- What is accepted is the expression of the pattern, with the warning of its outline. -/
theorem vet_eq_ok_iff {limit : Nat} {pattern : String} {vetted : Vetted} : vet limit pattern = .ok vetted ↔
    pattern.length ≤ limit ∧ ∃ ast, Regex.Ast.read? pattern = some ast ∧
      inspect (ast.outline pattern) = .ok vetted.warning ∧ Regex.ofAst? pattern ast = some vetted.regex := by
  rw [vet, checkLength]
  split
  next hlong => exact iff_of_false (fun h => by cases h) fun h => by omega
  next hlong =>
    rw [and_iff_right (Nat.le_of_not_lt hlong)]
    change vetAnyLength pattern = .ok vetted ↔ _
    rw [vetAnyLength]
    cases Regex.Ast.read? pattern with
    | none => simp
    | some ast =>
        simp only [Option.some.injEq, exists_eq_left', bind, Except.bind]
        cases inspect (ast.outline pattern) with
        | error rejection => simp
        | ok warning =>
            cases Regex.ofAst? pattern ast with
            | none => simp
            | some regex =>
                obtain ⟨regex', warning'⟩ := vetted
                simp [pure, Except.pure, and_comm]

/-- **The verdict on a pattern is what its outline shows.** A pattern is too long, or cannot be read, or nests
quantifiers, or has many wildcards, or overlaps, or is refused by the engine, and of several of these the first is
told; a pattern of which none is true is accepted, with a warning of its lone wildcard or class. -/
theorem vet_tells_first (limit : Nat) (pattern : String) :
    (vet limit pattern = .error (.tooLong pattern.length limit) ↔ limit < pattern.length) ∧
    (reason? (vet limit pattern) = some .tooLong ↔ limit < pattern.length) ∧
    (reason? (vet limit pattern) = some .nestedQuantifiers ↔ pattern.length ≤ limit ∧
      ∃ ast, Regex.Ast.read? pattern = some ast ∧ NestsQuantifiers (ast.outline pattern)) ∧
    (reason? (vet limit pattern) = some .manyWildcards ↔ pattern.length ≤ limit ∧
      ∃ ast, Regex.Ast.read? pattern = some ast ∧ ¬NestsQuantifiers (ast.outline pattern) ∧
        HasManyWildcards (ast.outline pattern)) ∧
    (reason? (vet limit pattern) = some .overlappingAlternatives ↔ pattern.length ≤ limit ∧
      ∃ ast, Regex.Ast.read? pattern = some ast ∧ ¬NestsQuantifiers (ast.outline pattern) ∧
        ¬HasManyWildcards (ast.outline pattern) ∧ Overlaps (ast.outline pattern)) ∧
    (reason? (vet limit pattern) = some .malformed ↔ pattern.length ≤ limit ∧
      (Regex.Ast.read? pattern = none ∨
        ∃ ast, Regex.Ast.read? pattern = some ast ∧ ¬NestsQuantifiers (ast.outline pattern) ∧
          ¬HasManyWildcards (ast.outline pattern) ∧ ¬Overlaps (ast.outline pattern) ∧
          Regex.ofAst? pattern ast = none)) ∧
    (∀ vetted, vet limit pattern = .ok vetted ↔ pattern.length ≤ limit ∧
      ∃ ast, Regex.Ast.read? pattern = some ast ∧ ¬NestsQuantifiers (ast.outline pattern) ∧
        ¬HasManyWildcards (ast.outline pattern) ∧ ¬Overlaps (ast.outline pattern) ∧
        Regex.ofAst? pattern ast = some vetted.regex ∧ Warns (ast.outline pattern) vetted.warning) := by
  have hreason := reason?_vet limit pattern
  by_cases hlong : limit < pattern.length
  · have hshort : ¬pattern.length ≤ limit := Nat.not_le_of_lt hlong
    have hvet : vet limit pattern = .error (.tooLong pattern.length limit) := by
      rw [vet, checkLength, if_pos hlong]
      rfl
    simp [hvet, hlong, hshort, reason?, Rejection.reason]
  have hshort := Nat.le_of_not_lt hlong
  rw [if_neg hlong] at hreason
  have hlength (h : reason? (vet limit pattern) ≠ some .tooLong) :
      vet limit pattern ≠ .error (.tooLong pattern.length limit) := fun heq => h (by rw [heq]; rfl)
  cases htree : Regex.Ast.read? pattern with
  | none =>
      simp only [htree] at hreason
      have hlength := hlength (by rw [hreason]; decide)
      simp [hreason, hlength, hlong, hshort, vet_eq_ok_iff, htree]
  | some ast =>
      simp only [htree] at hreason
      obtain ⟨hnests, hmany, hoverlaps, hnone⟩ := reason?_inspect_iff (ast.outline pattern)
      obtain ⟨hnotLong, hreadable⟩ := reason?_inspect_ne (ast.outline pattern)
      -- Only when the outline gives no reason does it matter what the engine says.
      have hsame {r : Reason} (hr : r ≠ .malformed) :
          reason? (vet limit pattern) = some r ↔ reason? (inspect (ast.outline pattern)) = some r := by
        rw [hreason]
        cases reason? (inspect (ast.outline pattern)) with
        | some _ => exact Iff.rfl
        | none => split <;> simp [hr.symm]
      have hrefused : reason? (vet limit pattern) = some .malformed ↔
          reason? (inspect (ast.outline pattern)) = none ∧ Regex.ofAst? pattern ast = none := by
        rw [hreason]
        cases hinspect : reason? (inspect (ast.outline pattern)) with
        | some r => simpa [hinspect] using hreadable
        | none => split <;> simp_all
      have htooLong : reason? (vet limit pattern) ≠ some .tooLong := fun h => hnotLong ((hsame (by decide)).1 h)
      refine ⟨iff_of_false (hlength htooLong) hlong, iff_of_false htooLong hlong, ?_, ?_, ?_, ?_, fun vetted => ?_⟩
      · simp [hsame, hnests, hshort]
      · simp [hsame, hmany, hshort]
      · simp [hsame, hoverlaps, hshort]
      · simp [hrefused, hnone, hshort, and_assoc]
      · simp only [vet_eq_ok_iff, inspect_eq_ok_iff, hshort, htree, true_and, Option.some.injEq, exists_eq_left', and_assoc,
          and_comm (a := Warns _ _)]

end Attest.Pattern

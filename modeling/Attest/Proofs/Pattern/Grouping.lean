import Attest.Proofs.Pattern.Enclosure
import Attest.Proofs.Regex.Enclosing.Outline

/-!
A group around a part of a pattern. It is read as a group around the node that the part was read from, and so the outline
is the same but for a group around the piece of that node. What this changes about the verdict is known
(`reason?_inspect_of_encloses`); what the pattern matches stays the same.
-/

namespace Attest.Regex

open Pattern

namespace Ast

/-- What stands inside a node that has no quantifier: the alternatives of a group. -/
def inside : Ast → List (List Ast)
  | .group _ _ _ body => body.rows
  | .alternation span asts => (Ast.alternation span asts).rows
  | .concat span asts => (Ast.concat span asts).rows
  | _ => []

/-- What stands inside the piece of a node. Below a quantifier this is what has a quantifier already, or what stands inside
the atom. -/
def content : Ast → List (List Ast)
  | .repetition _ _ operand => if operand.isRepetition then [[operand]] else operand.inside
  | n => n.inside

/-- The node without its quantifier. -/
def atom : Ast → Ast
  | .repetition _ _ operand => operand
  | n => n

def quantifier? : Ast → Option Quantifier
  | .repetition _ kind _ => some kind.quantifier
  | _ => none

/-- The node at a place inside a node; no steps lead to the node itself. -/
def at? : Place → Ast → Option Ast
  | [], n => some n
  | (i, j) :: place, n => (n.content[i]?.bind (·[j]?)).bind (at? place)

end Ast

/-- The node whose piece is at a place of the outline. -/
def nodeAt? (ast : Ast) : Place → Option Ast
  | [] => none
  | (i, j) :: place => (ast.rows[i]?.bind (·[j]?)).bind (Ast.at? place)

/-- The pieces of rows of nodes. -/
def piecesOf (chars : Array Char) (rows : List (List Ast)) : List (List Piece) :=
  rows.map (·.map (Ast.piece chars))

variable {chars : Array Char} {n k : Ast} {w : Place} {x : Span} {pattern : String}

@[simp] theorem quantifier_piece (chars : Array Char) (n : Ast) : (n.piece chars).quantifier = n.quantifier? := by
  cases n with
  | repetition span kind operand =>
      rw [Ast.piece, Piece.quantify]
      split
      · rfl
      · cases operand.piece chars <;> rfl
  | _ => rw [Ast.piece]; rfl

theorem isSome_quantifier? (n : Ast) : n.quantifier?.isSome = n.isRepetition := by
  cases n <;> rfl

/-- Without a quantifier a node is its own atom. -/
theorem of_not_repetition (hn : n.isRepetition = false) :
    n.content = n.inside ∧ n.quantifier? = none ∧ n.atom = n := by
  cases n with
  | repetition => cases hn
  | _ => exact ⟨rfl, rfl, rfl⟩

/-- The piece of a node without a quantifier is a leaf, or a group of what stands inside it. -/
theorem piece_cases_of_not_repetition (chars : Array Char) (hn : n.isRepetition = false) :
    (n.inside = [] ∧ ∃ kind label, n.piece chars = .leaf kind label) ∨
      ∃ bareText text, n.piece chars = .group (piecesOf chars n.inside) ⟨none, bareText, text⟩ := by
  have hrows (n : Ast) : n.alternatives chars = piecesOf chars n.rows := n.alternatives_eq_map chars
  cases n with
  | repetition => cases hn
  | group =>
      rw [Ast.piece, hrows]
      exact .inr ⟨_, _, rfl⟩
  | alternation span asts =>
      rw [Ast.inside, ← hrows, Ast.alternatives, Ast.piece]
      exact .inr ⟨_, _, rfl⟩
  | concat span asts =>
      rw [Ast.inside, ← hrows, Ast.alternatives_of_isAlternation_eq_false _ rfl, Ast.branch, Ast.piece]
      exact .inr ⟨_, _, rfl⟩
  | _ =>
      rw [Ast.piece]
      exact .inl ⟨rfl, _, _, rfl⟩

/-- The piece of a node is a leaf, or a group of what stands inside it. -/
theorem piece_cases (chars : Array Char) (n : Ast) : (n.content = [] ∧ ∃ kind label, n.piece chars = .leaf kind label) ∨
    ∃ bareText text, n.piece chars = .group (piecesOf chars n.content) ⟨n.quantifier?, bareText, text⟩ := by
  cases hn : n.isRepetition with
  | false =>
      obtain ⟨hcontent, hquantifier, -⟩ := of_not_repetition hn
      rw [hcontent, hquantifier]
      exact piece_cases_of_not_repetition chars hn
  | true =>
      cases n with
      | repetition span kind operand =>
          rw [Ast.piece, Piece.quantify, quantifier_piece, isSome_quantifier?, Ast.content]
          cases hoperand : operand.isRepetition with
          | true => exact .inr ⟨_, _, rfl⟩
          | false =>
              obtain ⟨hinside, kind, label, hpiece⟩ | ⟨bareText, text, hpiece⟩ :=
                piece_cases_of_not_repetition chars hoperand
              · exact .inl ⟨hinside, _, _, by rw [hpiece]; rfl⟩
              · exact .inr ⟨_, _, by rw [hpiece]; rfl⟩
      | _ => cases hn

/-! ### Places and spans -/

theorem has_of_mem_inside {m : Ast} (h : m ∈ n.inside.flatten) : n.Has m := by
  cases n with
  | group => exact .body (Ast.has_of_mem_rows h)
  | alternation => exact Ast.has_of_mem_rows h
  | concat => exact Ast.has_of_mem_rows h
  | _ => cases h

theorem has_of_mem_content {m : Ast} (h : m ∈ n.content.flatten) : n.Has m := by
  cases n with
  | repetition span kind operand =>
      rw [Ast.content] at h
      split at h
      · obtain rfl := List.mem_singleton.1 h
        exact .operand (.self _)
      · exact .operand (has_of_mem_inside h)
  | _ => exact has_of_mem_inside h

theorem has_atom (n : Ast) : n.Has n.atom := by
  cases n with
  | repetition => exact .operand (.self _)
  | _ => exact .self _

theorem wellRead_atom (h : n.WellRead) : n.atom.WellRead := by
  refine ⟨?_, fun k hk => h.formed k ((has_atom n).trans hk)⟩
  cases n with
  | repetition => exact (h.formed _ (.self _)).2.1
  | _ => exact h.isItem

theorem wellRead_of_mem_content {m : Ast} (h : n.WellRead) (hm : m ∈ n.content.flatten) : m.WellRead := by
  have hinside {n : Ast} (h : n.WellRead) (hm : m ∈ n.inside.flatten) : m.WellRead := by
    cases n with
    | group => exact Ast.wellRead_of_mem_rows (fun k hk => h.formed k (.body hk)) hm
    | alternation => cases h.isItem
    | concat => cases h.isItem
    | _ => cases hm
  cases n with
  | repetition span kind operand =>
      have hoperand : operand.WellRead := wellRead_atom h
      rw [Ast.content] at hm
      split at hm
      · obtain rfl := List.mem_singleton.1 hm
        exact hoperand
      · exact hinside hoperand hm
  | _ => exact hinside h hm

/-- What stands inside a piece, in order. -/
theorem row_content (h : n.WellRead) : Row n.span.start (n.span.stop - 1) n.content.flatten := by
  have hinside {n : Ast} (h : n.WellRead) : Row (n.span.start + 1) (n.span.stop - 1) n.inside.flatten := by
    cases n with
    | group span captures changes body =>
        obtain ⟨-, hstart, hstop⟩ := h.formed _ (.self _)
        exact (Ast.row_rows fun k hk => h.formed k (.body hk)).mono hstart (Nat.le_sub_one_of_lt hstop)
    | alternation => cases h.isItem
    | concat => cases h.isItem
    | _ => constructor <;> simp [Ast.inside]
  cases n with
  | repetition span kind operand =>
      obtain ⟨-, -, -, hstart, hstop⟩ := h.formed _ (.self _)
      rw [Ast.content]
      split
      · exact row_singleton (Nat.le_of_eq hstart.symm) (Nat.le_sub_one_of_lt hstop)
      · exact (hinside (wellRead_atom h)).mono (show span.start ≤ operand.span.start + 1 by omega)
          (show operand.span.stop - 1 ≤ span.stop - 1 by omega)
  | _ => exact (hinside h).mono (Nat.le_succ _) (Nat.le_refl _)

theorem mem_flatten_of_step {bs : List (List Ast)} {i j : Nat} (h : bs[i]?.bind (·[j]?) = some n) : n ∈ bs.flatten := by
  obtain ⟨b, hb, hn⟩ := Option.bind_eq_some_iff.1 h
  exact List.mem_flatten.2 ⟨b, List.mem_of_getElem? hb, List.mem_of_getElem? hn⟩

theorem has_at? (h : n.at? w = some k) : n.Has k := by
  induction w generalizing n with
  | nil =>
      obtain rfl := Option.some.inj h
      exact .self n
  | cons step w ih =>
      obtain ⟨m, hm, h⟩ := Option.bind_eq_some_iff.1 h
      exact (has_of_mem_content (mem_flatten_of_step hm)).trans (ih h)

theorem wellRead_at? (hn : n.WellRead) (h : n.at? w = some k) : k.WellRead := by
  induction w generalizing n with
  | nil =>
      obtain rfl := Option.some.inj h
      exact hn
  | cons step w ih =>
      obtain ⟨m, hm, h⟩ := Option.bind_eq_some_iff.1 h
      exact ih (wellRead_of_mem_content hn (mem_flatten_of_step hm)) h

/-- The node without its quantifier stands in the one around it, and before the quantifier of that one. -/
theorem bounds_at? (hn : n.WellRead) (h : n.at? w = some k) :
    n.span.start ≤ k.atom.span.start ∧ k.atom.span.stop ≤ n.span.stop ∧
      (n.isRepetition = true → k.atom.span.stop < n.span.stop) := by
  obtain ⟨hlower, hupper⟩ := ((has_at? h).trans (has_atom k)).bounds hn.formed
  refine ⟨hlower, hupper, fun hrepetition => ?_⟩
  have hspan := hn.lt
  cases w with
  | nil =>
      obtain rfl := Option.some.inj h
      cases n with
      | repetition => exact (hn.formed _ (.self _)).2.2.2.2
      | _ => cases hrepetition
  | cons step w =>
      obtain ⟨m, hm, h⟩ := Option.bind_eq_some_iff.1 h
      have hmem := mem_flatten_of_step hm
      have hm := (row_content hn).upper m hmem
      have hk := (((has_at? h).trans (has_atom k)).bounds (wellRead_of_mem_content hn hmem).formed).2
      omega

/-- What stands inside a piece is neither the node itself nor, unless it is to be put under a further quantifier, what
that has a quantifier. -/
theorem span_ne_of_mem_content {m : Ast} (hn : n.WellRead) (hm : m ∈ n.content.flatten)
    (hspan : x.start < x.stop) (hlower : m.span.start ≤ x.start) (hupper : x.stop ≤ m.span.stop)
    (hrepetition : m.isRepetition = true → x.stop < m.span.stop) : n.span ≠ x ∧ n.atom.span ≠ x := by
  have hinside := (row_content hn).upper m hm
  have hne : n.span ≠ x := by
    rintro rfl
    omega
  refine ⟨hne, ?_⟩
  cases n with
  | repetition span kind operand =>
      rintro rfl
      rw [Ast.content] at hm
      split at hm
      next hoperand =>
        obtain rfl := List.mem_singleton.1 hm
        exact absurd (hrepetition hoperand) (Nat.lt_irrefl _)
      next hoperand =>
        obtain ⟨hcontent, -⟩ := of_not_repetition (eq_false_of_ne_true hoperand)
        have hwithin : m.span.stop ≤ operand.span.stop - 1 :=
          (row_content (wellRead_atom hn)).upper m (show m ∈ operand.content.flatten by rwa [hcontent])
        have hspan : operand.span.start < operand.span.stop := (wellRead_atom hn).lt
        exact absurd hupper (show ¬operand.span.stop ≤ m.span.stop by omega)
  | _ => exact hne

/-! ### The outline with the group -/

theorem row_enclose (x : Span) (n : Ast) : (n.enclose x).row = n.row.map (Ast.enclose x) := by
  have hself (n n' : Ast) (hn' : n'.isItem = true) : (if n.span = x then n.around else n').isItem = true := by
    split
    · rfl
    · exact hn'
  induction n using Ast.induction with
  | leaf n hn =>
      cases n with
      | empty => rfl
      | flags => rfl
      | repetition => cases hn
      | group => cases hn
      | alternation => cases hn
      | concat => cases hn
      | _ => exact Ast.row_of_isItem (hself _ _ rfl)
  | repetition => exact Ast.row_of_isItem (hself _ _ rfl)
  | group => exact Ast.row_of_isItem (hself _ _ rfl)
  | alternation => rfl
  | concat span asts ih =>
      rw [Ast.enclose_concat, Ast.row, Ast.row, Ast.rowOfList_eq_flatMap, Ast.rowOfList_eq_flatMap, List.flatMap_map,
        List.map_flatMap, List.flatMap_congr ih]

theorem isAlternation_enclose (x : Span) (n : Ast) : (n.enclose x).isAlternation = n.isAlternation := by
  cases n with
  | empty => rfl
  | flags => rfl
  | alternation => rfl
  | concat => rfl
  | _ => rw [Ast.enclose, Ast.rebuild]; split <;> rfl

theorem rows_enclose (x : Span) (n : Ast) : (n.enclose x).rows = n.rows.map (·.map (Ast.enclose x)) := by
  cases hn : n.isAlternation with
  | true =>
      cases n with
      | alternation span asts =>
          rw [Ast.enclose_alternation, Ast.rows, Ast.rows, List.map_map, List.map_map]
          exact List.map_congr_left fun n _ => row_enclose x n
      | _ => cases hn
  | false =>
      rw [Ast.rows_of_isAlternation_eq_false hn, Ast.rows_of_isAlternation_eq_false (by rw [isAlternation_enclose, hn]),
        row_enclose, List.map_singleton]

theorem inside_enclose (hn : n.span ≠ x) : (n.enclose x).inside = n.inside.map (·.map (Ast.enclose x)) := by
  cases n with
  | group span captures changes body =>
      have hn : span ≠ x := hn
      rw [Ast.enclose_group hn, Ast.inside, Ast.inside, rows_enclose]
  | alternation span asts => exact rows_enclose x (.alternation span asts)
  | concat span asts => exact rows_enclose x (.concat span asts)
  | empty => rfl
  | flags => rfl
  | _ =>
      rw [Ast.enclose, Ast.rebuild, if_neg hn]
      rfl

theorem isRepetition_enclose (hn : n.span ≠ x) : (n.enclose x).isRepetition = n.isRepetition := by
  cases n with
  | empty => rfl
  | flags => rfl
  | alternation => rfl
  | concat => rfl
  | _ => rw [Ast.enclose, Ast.rebuild, if_neg hn]; rfl

/-- A group somewhere inside a piece leaves its quantifier alone, and what else stands in it has the group inside. -/
theorem content_enclose (hn : n.span ≠ x) (hatom : n.atom.span ≠ x) :
    (n.enclose x).content = n.content.map (·.map (Ast.enclose x)) ∧ (n.enclose x).quantifier? = n.quantifier? := by
  cases n with
  | repetition span kind operand =>
      have hn : span ≠ x := hn
      have hatom : operand.span ≠ x := hatom
      rw [Ast.enclose_repetition hn, Ast.content, Ast.content, isRepetition_enclose hatom, inside_enclose hatom]
      refine ⟨?_, rfl⟩
      split <;> rfl
  | empty => exact ⟨rfl, rfl⟩
  | flags => exact ⟨rfl, rfl⟩
  | alternation span asts => exact ⟨inside_enclose hn, rfl⟩
  | concat span asts => exact ⟨inside_enclose hn, rfl⟩
  | _ =>
      have hinside := inside_enclose hn
      rw [Ast.enclose, Ast.rebuild, if_neg hn] at hinside ⊢
      exact ⟨hinside, rfl⟩

theorem piecesOf_enclose {chars' : Array Char} {bs : List (List Ast)}
    (h : ∀ n ∈ bs.flatten, (n.enclose x).piece chars' = n.piece chars) :
    piecesOf chars' (bs.map (·.map (Ast.enclose x))) = piecesOf chars bs := by
  rw [piecesOf, piecesOf, List.map_map]
  refine List.map_congr_left fun b hb => ?_
  rw [Function.comp_apply, List.map_map]
  exact List.map_congr_left fun n hn => h n (List.mem_flatten.2 ⟨b, hb, hn⟩)

theorem piecesOf_around (chars : Array Char) (above below : List (List Ast)) (before after : List Ast) (n : Ast) :
    piecesOf chars (above ++ (before ++ n :: after) :: below) = piecesOf chars above ++
      (before.map (Ast.piece chars) ++ n.piece chars :: after.map (Ast.piece chars)) :: piecesOf chars below := by
  simp [piecesOf]

/-- An element of a list, with what stands before it and behind it. -/
theorem exists_around {α : Type} {l : List α} {i : Nat} {a : α} (h : l[i]? = some a) :
    ∃ front back, l = front ++ a :: back ∧ front.length = i := by
  obtain ⟨hi, rfl⟩ := List.getElem?_eq_some_iff.1 h
  exact ⟨l.take i, l.drop (i + 1), by rw [List.cons_getElem_drop_succ, List.take_append_drop],
    List.length_take_of_le (Nat.le_of_lt hi)⟩

/-- All that stands before and behind a node with the group in it has the same piece. -/
theorem piece_around {lo : Nat} {front back : List Ast} (horder : InOrder lo pattern.length (front ++ n :: back))
    (hspan : x.start < x.stop) (hlower : n.span.start ≤ x.start) (hupper : x.stop ≤ n.span.stop) :
    (∀ k ∈ front, (k.enclose x).piece (x.encloseIn pattern).toList.toArray = k.piece pattern.toList.toArray) ∧
    ∀ k ∈ back, (k.enclose x).piece (x.encloseIn pattern).toList.toArray = k.piece pattern.toList.toArray := by
  obtain ⟨⟨-, hstops, hpairwise⟩, hformed⟩ := horder
  obtain ⟨-, hpairwise, hfront⟩ := List.pairwise_append.1 hpairwise
  obtain ⟨hback, -⟩ := List.pairwise_cons.1 hpairwise
  have hstop := hstops n (List.mem_append_right _ List.mem_cons_self)
  constructor
  · intro k hk
    exact piece_before hspan (by omega) (fun m hm => hformed m ⟨k, List.mem_append_left _ hk, hm⟩)
      (Nat.le_trans (hfront k hk n List.mem_cons_self) hlower)
  · intro k hk
    have hmem := List.mem_append_right front (List.mem_cons_of_mem n hk)
    exact piece_behind hspan (fun m hm => hformed m ⟨k, hmem, hm⟩) (Nat.le_trans hupper (hback k hk)) (hstops k hmem)

/-- A group inside one of several nodes is one inside the piece of that node. -/
theorem encloses_piecesOf {lo : Nat} {bs : List (List Ast)} {i j : Nat} (horder : InOrder lo pattern.length bs.flatten)
    (hstep : bs[i]?.bind (·[j]?) = some n) (hspan : x.start < x.stop) (hlower : n.span.start ≤ x.start)
    (hupper : x.stop ≤ n.span.stop) (h : (n.piece pattern.toList.toArray).Encloses w
      ((n.enclose x).piece (x.encloseIn pattern).toList.toArray)) (label : Label) (bareText text : String) :
    (Piece.group (piecesOf pattern.toList.toArray bs) label).Encloses ((i, j) :: w)
      (.group (piecesOf (x.encloseIn pattern).toList.toArray (bs.map (·.map (Ast.enclose x))))
        ⟨label.quantifier, bareText, text⟩) := by
  obtain ⟨b, hb, hn⟩ := Option.bind_eq_some_iff.1 hstep
  obtain ⟨above, below, rfl, rfl⟩ := exists_around hb
  obtain ⟨before, after, rfl, rfl⟩ := exists_around hn
  have hflatten : (above ++ (before ++ n :: after) :: below).flatten =
      (above.flatten ++ before) ++ n :: (after ++ below.flatten) := by simp
  obtain ⟨hearlier, hlater⟩ := piece_around (hflatten ▸ horder) hspan hlower hupper
  have habove := piecesOf_enclose fun k hk => hearlier k (List.mem_append_left _ hk)
  have hbelow := piecesOf_enclose fun k hk => hlater k (List.mem_append_right _ hk)
  have hbefore : (before.map (Ast.enclose x)).map (Ast.piece (x.encloseIn pattern).toList.toArray) =
      before.map (Ast.piece pattern.toList.toArray) := by
    rw [List.map_map]
    exact List.map_congr_left fun k hk => hearlier k (List.mem_append_right _ hk)
  have hafter : (after.map (Ast.enclose x)).map (Ast.piece (x.encloseIn pattern).toList.toArray) =
      after.map (Ast.piece pattern.toList.toArray) := by
    rw [List.map_map]
    exact List.map_congr_left fun k hk => hlater k (List.mem_append_left _ hk)
  rw [List.map_append, List.map_cons, List.map_append, List.map_cons, piecesOf_around, piecesOf_around, habove, hbefore,
    hafter, hbelow]
  have hi : (piecesOf pattern.toList.toArray above).length = above.length := List.length_map _
  have hj : (before.map (Ast.piece pattern.toList.toArray)).length = before.length := List.length_map _
  rw [← hi, ← hj]
  exact .inside h bareText text

theorem bare_withLabel (p : Piece) (quantifier : Option Quantifier) (text : String) :
    (p.withLabel ⟨quantifier, p.label.bareText, text⟩).bare = p.bare := by
  cases p <;> rfl

theorem bare_piece (chars : Array Char) (h : (n.piece chars).quantifier = none) :
    (n.piece chars).bare = n.piece chars := by
  cases n with
  | repetition =>
      rw [quantifier_piece] at h
      cases h
  | _ => rw [Ast.piece]; rfl

/-- A quantifier around the group and around what is in it. -/
theorem encloses_quantify {p : Piece} (hp : p.quantifier = none → p.bare = p) (q : Quantifier)
    (inner text text' : String) : (p.quantify q text).Encloses []
      ((Piece.group [[p]] ⟨none, inner, inner⟩).quantify q text') := by
  have hgroup : (Piece.group [[p]] ⟨none, inner, inner⟩).quantify q text' = .group [[p]] ⟨some q, inner, text'⟩ := rfl
  rw [hgroup, Piece.quantify]
  cases hquantifier : p.quantifier with
  | some =>
      rw [if_pos Option.isSome_some]
      exact .stacked (by rw [hquantifier, Option.isSome_some]) ⟨some q, _, _⟩ inner text'
  | none =>
      have hhere := Piece.Encloses.here (p.withLabel ⟨some q, p.label.bareText, text⟩) inner text'
      rw [bare_withLabel, hp hquantifier] at hhere
      rw [Option.isSome_none, if_neg Bool.false_ne_true]
      cases p <;> exact hhere

/-- The group around a node itself. -/
theorem encloses_self (hn : n.WellRead) (hstop : n.span.stop ≤ pattern.length) (hrepeat : n.atom.mayRepeat = true) :
    (n.piece pattern.toList.toArray).Encloses []
      ((n.enclose n.atom.span).piece (n.atom.span.encloseIn pattern).toList.toArray) := by
  have hspan := (wellRead_atom hn).lt
  have hitem := (wellRead_atom hn).isItem
  have hatom := ((has_atom n).bounds hn.formed).2
  have hinside : (n.atom.move 3).piece (n.atom.span.encloseIn pattern).toList.toArray =
      n.atom.piece pattern.toList.toArray :=
    piece_move (Nat.le_of_lt hspan) (by omega) (wellRead_atom hn).formed (Nat.le_refl _) (Nat.le_refl _)
  have haround : ∃ inner, n.atom.around.piece (n.atom.span.encloseIn pattern).toList.toArray =
      .group [[n.atom.piece pattern.toList.toArray]] ⟨none, inner, inner⟩ := by
    rw [← hinside, Ast.around, Ast.piece, Ast.alternatives_of_isAlternation_eq_false _
      (Ast.isAlternation_of_isItem (Ast.isItem_move 3 hitem)), Ast.branch_of_isItem _ (Ast.isItem_move 3 hitem)]
    exact ⟨_, rfl⟩
  obtain ⟨inner, haround⟩ := haround
  have henclose : n.atom.enclose n.atom.span = n.atom.around := Ast.enclose_of_span_eq hitem hrepeat rfl
  cases hrepetition : n.isRepetition with
  | false =>
      obtain ⟨-, hquantifier, hself⟩ := of_not_repetition hrepetition
      have hnone : (n.piece pattern.toList.toArray).quantifier = none := (quantifier_piece _ n).trans hquantifier
      have hhere := Piece.Encloses.here (n.piece pattern.toList.toArray) inner inner
      rw [hself] at haround henclose ⊢
      rw [henclose, haround]
      rwa [bare_piece _ hnone, hnone] at hhere
  | true =>
      cases n with
      | repetition span kind operand =>
          have hne : span ≠ operand.span := by
            rintro rfl
            exact absurd (hn.formed _ (.self _)).2.2.2.2 (Nat.lt_irrefl _)
          simp only [Ast.atom] at haround henclose ⊢
          rw [Ast.enclose_repetition hne, henclose, Ast.piece, Ast.piece, haround]
          exact encloses_quantify (bare_piece _) _ _ _ _
      | _ => cases hrepetition

/-- The group around a node somewhere inside another one. -/
theorem encloses_of_at? (hn : n.WellRead) (hstop : n.span.stop ≤ pattern.length) (hk : n.at? w = some k)
    (hrepeat : k.atom.mayRepeat = true) : (n.piece pattern.toList.toArray).Encloses w
      ((n.enclose k.atom.span).piece (k.atom.span.encloseIn pattern).toList.toArray) := by
  induction w generalizing n with
  | nil =>
      obtain rfl := Option.some.inj hk
      exact encloses_self hn hstop hrepeat
  | cons step w ih =>
      obtain ⟨i, j⟩ := step
      obtain ⟨m, hm, hmk⟩ := Option.bind_eq_some_iff.1 hk
      have hmem := mem_flatten_of_step hm
      have hmread := wellRead_of_mem_content hn hmem
      have hrow := row_content hn
      have hspan := (wellRead_atom (wellRead_at? hn hk)).lt
      have hmstop := hrow.upper m hmem
      obtain ⟨hlower, hupper, hrepetition⟩ := bounds_at? hmread hmk
      obtain ⟨hne, hatom⟩ := span_ne_of_mem_content hn hmem hspan hlower hupper hrepetition
      obtain ⟨hcontent, hquantifier⟩ := content_enclose hne hatom
      have hinside := ih hmread (by omega) hmk
      have hbranches := encloses_piecesOf ⟨hrow.mono (Nat.le_refl _) (by omega), fun j hj =>
        hj.elim fun l hl => hn.formed j ((has_of_mem_content hl.1).trans hl.2)⟩ hm hspan hlower hupper hinside
      obtain ⟨hempty, -⟩ | ⟨bareText, text, hpiece⟩ := piece_cases pattern.toList.toArray n
      · rw [hempty] at hmem
        cases hmem
      obtain ⟨hempty, -⟩ | ⟨bareText', text', hpiece'⟩ :=
        piece_cases (k.atom.span.encloseIn pattern).toList.toArray (n.enclose k.atom.span)
      · rw [hcontent, List.map_eq_nil_iff] at hempty
        rw [hempty] at hmem
        cases hmem
      rw [hpiece, hpiece', hcontent, hquantifier]
      exact hbranches ⟨n.quantifier?, bareText, text⟩ bareText' text'

/-- A node at a place of a tree that was read from a pattern. -/
theorem wellRead_of_nodeAt? {ast : Ast} (hread : Ast.read? pattern = some ast) (h : nodeAt? ast w = some n) :
    n.WellRead ∧ ast.Has n := by
  have hformed := (Ast.inOrder hread).of_has
  cases w with
  | nil => cases h
  | cons step w =>
      obtain ⟨m, hm, hn⟩ := Option.bind_eq_some_iff.1 h
      have hmem := mem_flatten_of_step hm
      exact ⟨wellRead_at? (Ast.wellRead_of_mem_rows hformed hmem) hn, (Ast.has_of_mem_rows hmem).trans (has_at? hn)⟩

/-- The group around a node at a place of the tree is one around the piece at that place of the outline. -/
theorem encloses_outline {ast : Ast} (hread : Ast.read? pattern = some ast) (hn : nodeAt? ast w = some n)
    (hrepeat : n.atom.mayRepeat = true) : (whole (ast.outline pattern)).Encloses w
      (whole ((ast.enclose n.atom.span).outline (n.atom.span.encloseIn pattern))) := by
  have horder := Ast.inOrder hread
  have hbounds := horder.bounds (holds_singleton.2 (.self ast))
  have hrows := Ast.row_rows horder.of_has
  cases w with
  | nil => cases hn
  | cons step w =>
      obtain ⟨i, j⟩ := step
      have hspan := (wellRead_atom (wellRead_of_nodeAt? hread hn).1).lt
      obtain ⟨m, hm, hmn⟩ := Option.bind_eq_some_iff.1 hn
      have hmem := mem_flatten_of_step hm
      have hmread := Ast.wellRead_of_mem_rows horder.of_has hmem
      have hmstop : m.span.stop ≤ pattern.length := Nat.le_trans (hrows.upper m hmem) hbounds.2
      obtain ⟨hlower, hupper, -⟩ := bounds_at? hmread hmn
      have hinside := encloses_of_at? hmread hmstop hmn hrepeat
      have horder' : InOrder ast.span.start pattern.length ast.rows.flatten :=
        ⟨hrows.mono (Nat.le_refl _) hbounds.2, fun k hk =>
          hk.elim fun l hl => horder.of_has k ((Ast.has_of_mem_rows hl.1).trans hl.2)⟩
      rw [Ast.outline, Ast.outline, Ast.alternatives_eq_map, Ast.alternatives_eq_map, rows_enclose]
      exact encloses_piecesOf horder' hm hspan hlower hupper hinside ⟨none, "", ""⟩ "" ""

/-- What a quantifier applies to ends before the pattern does. -/
theorem atom_stop_lt {ast : Ast} (hread : Ast.read? pattern = some ast) (hn : ast.Has n)
    (hrepetition : n.atom.isRepetition = true) : n.atom.span.stop < pattern.length := by
  have horder := Ast.inOrder hread
  have hstop := (horder.bounds (holds_singleton.2 hn)).2
  cases n with
  | repetition => exact Nat.lt_of_lt_of_le (horder.of_has _ hn).2.2.2.2 hstop
  | _ => cases hrepetition

theorem length_encloseIn (hx : x.start ≤ x.stop) (hpattern : x.stop ≤ pattern.length) :
    (x.encloseIn pattern).length = pattern.length + 4 := by
  obtain ⟨front, middle, back, hparts, -, -, hparts'⟩ := exists_parts hx hpattern
  have hopen : "(?:".toList.length = 3 := rfl
  have hclose : ")".toList.length = 1 := rfl
  rw [← String.length_toList, ← String.length_toList, hparts, hparts']
  simp only [List.length_append]
  omega

end Attest.Regex

namespace Attest.Pattern

open Regex

variable {limit : Nat} {pattern pattern' : String} {ast ast' n : Ast} {w : Place}

theorem reason?_vet_of_read? (hlength : pattern.length ≤ limit) (hread : Ast.read? pattern = some ast) :
    reason? (vet limit pattern) = (reason? (inspect (ast.outline pattern))).or
      (if ofAst? pattern ast = none then some .malformed else none) := by
  rw [reason?_vet, if_neg (Nat.not_lt_of_le hlength), hread]

theorem ofAst?_eq_none_congr (h : ast'.wholeExpr? = ast.wholeExpr?) :
    ofAst? pattern' ast' = none ↔ ofAst? pattern ast = none := by
  rw [ofAst?, ofAst?, h]
  cases ast.wholeExpr? with
  | none => exact Iff.rfl
  | some e => by_cases hroom : e.size ≤ roomLimit <;> simp [bind, guard, hroom]

/-- Of two patterns that match the same, the verdicts agree exactly if the hazards that they show do. -/
theorem reason?_vet_congr (hlength : pattern.length ≤ limit) (hlength' : pattern'.length ≤ limit)
    (hread : Ast.read? pattern = some ast) (hread' : Ast.read? pattern' = some ast') (h : ast'.wholeExpr? = ast.wholeExpr?) :
    reason? (vet limit pattern') = reason? (vet limit pattern) ↔
      reason? (inspect (ast'.outline pattern')) = reason? (inspect (ast.outline pattern)) := by
  have hmalformed := (reason?_inspect_ne (ast.outline pattern)).2
  have hmalformed' := (reason?_inspect_ne (ast'.outline pattern')).2
  rw [reason?_vet_of_read? hlength hread, reason?_vet_of_read? hlength' hread',
    if_congr (ofAst?_eq_none_congr h) rfl rfl]
  refine ⟨fun heq => ?_, fun heq => by rw [heq]⟩
  split at heq
  · cases hreason : reason? (inspect (ast.outline pattern)) <;>
      cases hreason' : reason? (inspect (ast'.outline pattern')) <;> simp_all
  · rwa [Option.or_none, Option.or_none] at heq

/-- **What a group around a part of a pattern changes about the verdict.** The part may be anything that bears a
quantifier or could bear one, at any place. The pattern can still be read and matches the same. The verdict stays the same
exactly if quantifiers nest as before and, unless another reason comes first, alternatives overlap as before; and so it
does if the end of the alternative and the starts of those around are not affected. -/
theorem reason?_vet_encloseIn (hread : Ast.read? pattern = some ast) (hn : nodeAt? ast w = some n)
    (hrepeat : n.atom.mayRepeat = true) (hclear : n.atom.span.EndsClear pattern)
    (hlength : pattern.length + 4 ≤ limit) (hdepth : (ast.enclose n.atom.span).depth ≤ deepest) :
    Ast.read? (n.atom.span.encloseIn pattern) = some (ast.enclose n.atom.span) ∧
    (ast.enclose n.atom.span).wholeExpr? = ast.wholeExpr? ∧
    (reason? (vet limit (n.atom.span.encloseIn pattern)) = reason? (vet limit pattern) ↔
      (NestsQuantifiers ((ast.enclose n.atom.span).outline (n.atom.span.encloseIn pattern)) ↔
        NestsQuantifiers (ast.outline pattern)) ∧
      (¬NestsQuantifiers (ast.outline pattern) → ¬HasManyWildcards (ast.outline pattern) →
        (Overlaps ((ast.enclose n.atom.span).outline (n.atom.span.encloseIn pattern)) ↔
          Overlaps (ast.outline pattern)))) ∧
    ((whole (ast.outline pattern)).KeepsEnds w →
      (whole (ast.outline pattern)).KeepsStarts
        (whole ((ast.enclose n.atom.span).outline (n.atom.span.encloseIn pattern))) w →
      reason? (vet limit (n.atom.span.encloseIn pattern)) = reason? (vet limit pattern)) := by
  obtain ⟨hwell, hhas⟩ := wellRead_of_nodeAt? hread hn
  have hatom := wellRead_atom hwell
  have hhasAtom : ast.Has n.atom := hhas.trans (has_atom n)
  have horder := Ast.inOrder hread
  have hspan := hatom.lt
  have hlength' := length_encloseIn (Nat.le_of_lt hspan) (horder.bounds (holds_singleton.2 hhasAtom)).2
  have hread' := Ast.read?_encloseIn hread hatom.isItem hhasAtom hrepeat (atom_stop_lt hread hhas) hclear hdepth
  have hexpr : (ast.enclose n.atom.span).wholeExpr? = ast.wholeExpr? := Ast.expr?_enclose horder.of_has
  have hverdict := reason?_vet_congr (show pattern.length ≤ limit by omega) (by omega) hread hread' hexpr
  obtain ⟨-, hiff, hends, hstarts⟩ := reason?_inspect_of_encloses (encloses_outline hread hn hrepeat)
  refine ⟨hread', hexpr, hverdict.trans hiff, fun hkeepsEnds hkeepsStarts => ?_⟩
  exact hverdict.2 (hiff.2 ⟨hends hkeepsEnds, fun _ _ => hstarts hkeepsStarts⟩)

/-- A literal, a repeated group of two alternatives, and an anchor. -/
def repeatedAlternatives : Ast :=
  .concat ⟨0, 8⟩ [.literal ⟨0, 1⟩ ⟨'x', false⟩, .repetition ⟨1, 7⟩ .oneOrMore (.group ⟨1, 6⟩ true []
    (.alternation ⟨2, 5⟩ [.literal ⟨2, 3⟩ ⟨'a', false⟩, .literal ⟨4, 5⟩ ⟨'b', false⟩])), .assertion ⟨7, 8⟩ .lineEnd]

/-- The first alternative of a repeated group, which begins like no other one. -/
theorem reason?_vet_encloseIn_alternative :
    reason? (vet 20 "x((?:a)|b)+$") = reason? (vet 20 "x(a|b)+$") := by
  have hread : Ast.read? "x(a|b)+$" = some repeatedAlternatives := by rfl
  obtain ⟨-, -, -, hkeeps⟩ := @reason?_vet_encloseIn 20 _ _ _ [(0, 1), (0, 0)] hread rfl rfl (fun h => by cases h)
    (by decide) (by decide)
  have houtline : repeatedAlternatives.outline "x(a|b)+$" = [[.leaf .literal ⟨none, "x", "x"⟩,
      .group [[.leaf .literal ⟨none, "a", "a"⟩], [.leaf .literal ⟨none, "b", "b"⟩]] ⟨some ⟨1, none⟩, "(a|b)", "(a|b)+"⟩,
      .leaf .anchor ⟨none, "$", "$"⟩]] := by
    with_unfolding_all rfl
  have houtline' : (repeatedAlternatives.enclose ⟨2, 3⟩).outline "x((?:a)|b)+$" = [[.leaf .literal ⟨none, "x", "x"⟩,
      .group [[.group [[.leaf .literal ⟨none, "a", "a"⟩]] ⟨none, "(?:a)", "(?:a)"⟩], [.leaf .literal ⟨none, "b", "b"⟩]]
        ⟨some ⟨1, none⟩, "((?:a)|b)", "((?:a)|b)+"⟩, .leaf .anchor ⟨none, "$", "$"⟩]] := by
    have henclose : repeatedAlternatives.enclose ⟨2, 3⟩ = .concat ⟨0, 12⟩ [.literal ⟨0, 1⟩ ⟨'x', false⟩,
        .repetition ⟨1, 11⟩ .oneOrMore (.group ⟨1, 10⟩ true [] (.alternation ⟨2, 9⟩
          [.group ⟨2, 7⟩ false [] (.literal ⟨5, 6⟩ ⟨'a', false⟩), .literal ⟨8, 9⟩ ⟨'b', false⟩])),
        .assertion ⟨11, 12⟩ .lineEnd] := rfl
    rw [henclose]
    with_unfolding_all rfl
  have henclosed : (Span.mk 2 3).encloseIn "x(a|b)+$" = "x((?:a)|b)+$" := by decide
  have hspan : (Ast.literal ⟨2, 3⟩ ⟨'a', false⟩).atom.span = ⟨2, 3⟩ := rfl
  rw [hspan, henclosed, houtline, houtline'] at hkeeps
  refine hkeeps (Piece.keepsEnds_of_isAnchor_eq_false rfl rfl) ⟨fun p hp => ?_, ?_⟩
  · obtain rfl := Option.some.inj hp
    rfl
  · intro v i u g hw _ _ j p first hj hp hfirst
    rcases v with _ | ⟨step, _ | ⟨step', v⟩⟩
    · cases hw
    · cases hw
      rcases j with _ | _ | j
      · exact absurd rfl hj
      · obtain rfl := Option.some.inj hp
        obtain hfirst | hfirst := hfirst
        all_goals
          obtain rfl := Option.some.inj hfirst
          decide
      · cases hp
    · cases v <;> cases hw

/-- A group around a piece may change the verdict in both ways. -/
theorem group_changes_verdict :
    reason? (vet 20 "(a|ab)+") = some .overlappingAlternatives ∧ reason? (vet 20 "((?:a)|ab)+") = none ∧
    reason? (vet 20 "(a+$)+") = some .nestedQuantifiers ∧ reason? (vet 20 "(a+(?:$))+") = none ∧
    reason? (vet 20 "(a$*)+") = none ∧ reason? (vet 20 "(a(?:$)*)+") = some .nestedQuantifiers := by
  decide +kernel

end Attest.Pattern

import Attest.Proofs.Lists
import Attest.Proofs.Pattern.Grouping

/-!
What an outline keeps of a syntax tree. An outline is searched in place of the tree that it was made from, and so nothing
that the search is after may be missing from it.

Nodes and pieces are listed in the order of the text, each before those inside it. In this order every piece is made
from one node, or from two of them if it is an atom with its quantifier, and the nodes that the pieces are made from are
all nodes of the tree, one after the other, but for some that only join others (`Traced`). What is kept of leaves and of
quantifiers is read off from that. An alternation goes into the piece of the group that it is the content of, or into the
outline itself, and into a piece of its own anywhere else; so alternatives are listed apart from pieces (`Sourced`).
-/

namespace Attest.Regex

open Pattern

/-! ### All nodes of a tree -/

namespace Ast

mutual

/-- A node with all the nodes that it consists of, in the order of the text. -/
def nodes : Ast → List Ast
  | .repetition span kind operand => .repetition span kind operand :: operand.nodes
  | .group span captures changes body => .group span captures changes body :: body.nodes
  | .alternation span asts => .alternation span asts :: nodesOfList asts
  | .concat span asts => .concat span asts :: nodesOfList asts
  | n => [n]
termination_by structural n => n

def nodesOfList : List Ast → List Ast
  | [] => []
  | n :: ns => n.nodes ++ nodesOfList ns
termination_by structural ns => ns

end

/-- What the node is as a leaf of an outline, if nothing stands in it. -/
def leaf? : Ast → Option Leaf
  | .literal .. => some .literal
  | .dot _ => some .wildcard
  | .charClass .. => some .charClass
  | .empty _ => some .anchor
  | .flags .. => some .anchor
  | .assertion .. => some .anchor
  | _ => none

/-- The node begins before another one, and ends before it too unless the other one is inside. -/
def Before (m n : Ast) : Prop :=
  m.span.stop ≤ n.span.start ∨ m.span.start ≤ n.span.start ∧ n.span.stop ≤ m.span.stop

/-- Every node is read from a part of the pattern, and that of a repetition begins with that of its operand. -/
structure Fits (pattern : String) (ast : Ast) : Prop where
  span : ∀ n, ast.Has n → n.span.start ≤ n.span.stop ∧ n.span.stop ≤ pattern.length
  operand : ∀ span kind operand, ast.Has (.repetition span kind operand) →
    operand.span.start = span.start ∧ operand.span.stop ≤ span.stop

end Ast

/-- How often a repetition lets its operand apply. -/
def RepetitionKind.Allows (n : Nat) : RepetitionKind → Prop
  | .zeroOrOne => n ≤ 1
  | .zeroOrMore => True
  | .oneOrMore => 1 ≤ n
  | .range (.exactly k) => n = k
  | .range (.atLeast least) => least ≤ n
  | .range (.bounded least most) => least ≤ n ∧ n ≤ most

/-- The text is what stands in the pattern from the start of the span to its end. -/
def Span.Marks (span : Span) (pattern text : String) : Prop :=
  ∃ before after, pattern.toList = before ++ (text.toList ++ after) ∧ before.length = span.start ∧
    before.length + text.toList.length = span.stop

end Attest.Regex

namespace Attest.Pattern

/-- A leaf that takes a character. -/
def Leaf.takesCharacter : Leaf → Bool
  | .anchor => false
  | _ => true

def Quantifier.Allows (n : Nat) (q : Quantifier) : Prop :=
  q.least ≤ n ∧ ∀ most ∈ q.most, n ≤ most

namespace Piece

def leaf? : Piece → Option Leaf
  | .leaf kind _ => some kind
  | .group _ _ => none

def branches? : Piece → Option (List (List Piece))
  | .leaf _ _ => none
  | .group branches _ => some branches

end Piece

end Attest.Pattern

namespace Attest.Regex

open Pattern

/-- The quantifier allows as much as the repetition does, by the bounds that the pattern is matched with. -/
structure RepetitionKind.Bounds (kind : RepetitionKind) (q : Quantifier) : Prop where
  allows : ∀ n, q.Allows n ↔ kind.Allows n
  bounds : kind.bounds = (q.least, q.most)

theorem RepetitionKind.bounds_quantifier (kind : RepetitionKind) : kind.Bounds kind.quantifier := by
  refine ⟨fun n => ?_, ?_⟩
  · rcases kind with _ | _ | _ | (_ | _ | _) <;> simp only [Quantifier.Allows, Allows, quantifier, Option.mem_def]
    all_goals grind
  · rcases kind with _ | _ | _ | (_ | _ | _) <;> rfl

/-! ### Pieces and what they are made from -/

/-- The piece of a node without a quantifier, whatever is put on its label: a leaf of its kind, or a group. -/
inductive Ast.Becomes : Ast → Piece → Prop
  | leaf {n : Ast} {kind : Leaf} (h : n.leaf? = some kind) (label : Label) : Becomes n (.leaf kind label)
  | group {n : Ast} (h : n.leaf? = none) (hn : n.isRepetition = false) (branches : List (List Piece)) (label : Label) :
      Becomes n (.group branches label)

/-- The nodes that a piece is made from: one without a quantifier, one and its quantifier, or a quantifier of what has
one already. The last is a group around the piece that has the first quantifier. -/
inductive MadeFrom (pattern : String) : List Ast → Piece → Prop
  | bare {n : Ast} {p : Piece} {text : String} (h : n.Becomes p) (hlabel : p.label = ⟨none, text, text⟩)
      (htext : n.span.Marks pattern text) : MadeFrom pattern [n] p
  | quantified {span : Span} {kind : RepetitionKind} {n : Ast} {p : Piece} {q : Quantifier} {bareText text : String}
      (h : n.Becomes p) (hlabel : p.label = ⟨some q, bareText, text⟩) (hbounds : kind.Bounds q)
      (hbare : n.span.Marks pattern bareText) (htext : span.Marks pattern text)
      (hbegins : bareText.toList <+: text.toList) : MadeFrom pattern [.repetition span kind n, n] p
  | stacked {span : Span} {kind : RepetitionKind} {n : Ast} {p : Piece} {q : Quantifier} {text : String}
      (h : n.isRepetition = true) (hquantifier : p.quantifier = n.quantifier?) (hbounds : kind.Bounds q)
      (hbare : n.span.Marks pattern p.label.text) (htext : span.Marks pattern text)
      (hbegins : p.label.text.toList <+: text.toList) :
      MadeFrom pattern [.repetition span kind n] (.group [[p]] ⟨some q, p.label.text, text⟩)

/-- What alternatives in an outline come from: those of an alternation, with a piece for all that stands in each of them,
or a single one that no alternation is needed for. -/
inductive Gives (pattern : String) : Option Ast → List (List Piece) → Prop
  | alternation {span : Span} {asts : List Ast} {branches : List (List Piece)}
      (h : List.Forall₂ (fun a b => List.Forall₂ (fun n p => n.span.Marks pattern p.label.text) a.row b) asts branches) :
      Gives pattern (some (.alternation span asts)) branches
  | single (b : List Piece) : Gives pattern none [b]

/-- The nodes are shared out among the pieces in order, and none is left out but such as only join others. -/
def Traced (pattern : String) (nodes : List Ast) (pieces : List Piece) : Prop :=
  ∃ parts, List.Forall₂ (MadeFrom pattern) parts pieces ∧ parts.flatten.Sublist nodes ∧
    parts.flatten.filter (·.isItem) = nodes.filter (·.isItem)

/-- Each of the alternations among the nodes, in order, gives one of the lists of alternatives; all others are single. -/
def Sourced (pattern : String) (nodes : List Ast) (branchings : List (List (List Piece))) : Prop :=
  ∃ sources, List.Forall₂ (Gives pattern) sources branchings ∧ sources.filterMap id = nodes.filter (·.isAlternation)

/-- What a piece with a quantifier has of a repetition: the bounds and the text of it and, below the quantifier, either
the atom itself or the piece of another repetition in a group of its own. -/
inductive Quantifies (pattern : String) : Ast → Piece → Prop
  | atom {span : Span} {kind : RepetitionKind} {n : Ast} {p : Piece} {q : Quantifier} (h : n.Becomes p)
      (hquantifier : p.quantifier = some q) (hbounds : kind.Bounds q) (hbare : n.span.Marks pattern p.label.bareText)
      (htext : span.Marks pattern p.label.text) : Quantifies pattern (.repetition span kind n) p
  | stacked {span span' : Span} {kind kind' : RepetitionKind} {n : Ast} {p : Piece} {q q' : Quantifier} {text : String}
      (hinner : p.quantifier = some q') (hbounds' : kind'.Bounds q') (hbounds : kind.Bounds q)
      (hbare : span'.Marks pattern p.label.text) (htext : span.Marks pattern text) :
      Quantifies pattern (.repetition span kind (.repetition span' kind' n)) (.group [[p]] ⟨some q, p.label.text, text⟩)

/-- An outline has all of a tree whose nodes were read from the pattern. -/
structure Keeps (pattern : String) (ast : Ast) (outline : Outline) : Prop where
  nodes : ∀ n, n ∈ ast.nodes ↔ ast.Has n
  parts : Traced pattern ast.nodes (allOfBranches outline)
  leaves : List.Forall₂ (fun n p => p.leaf? = n.leaf? ∧ n.span.Marks pattern p.label.bareText)
    (ast.nodes.filter (·.leaf?.any Leaf.takesCharacter)) ((allOfBranches outline).filter (·.leaf?.any Leaf.takesCharacter))
  quantifiers : List.Forall₂ (Quantifies pattern)
    (ast.nodes.filter (·.isRepetition)) ((allOfBranches outline).filter (·.quantifier.isSome))
  alternatives : Sourced pattern ast.nodes (outline :: (allOfBranches outline).filterMap Piece.branches?)
  texts : ∀ p ∈ allOfBranches outline, p.label.bareText.toList <+: p.label.text.toList ∧
    ∃ n ∈ ast.nodes, n.span.Marks pattern p.label.text

variable {pattern : String} {n k : Ast} {p : Piece}

/-! ### The order of the nodes -/

namespace Ast

theorem nodesOfList_eq_flatMap (ns : List Ast) : nodesOfList ns = ns.flatMap nodes := by
  induction ns with
  | nil => rfl
  | cons n ns ih => rw [nodesOfList, ih, List.flatMap_cons]

theorem exists_nodes_eq_cons (n : Ast) : ∃ inner, n.nodes = n :: inner := by
  cases n <;> exact ⟨_, rfl⟩

theorem nodes_of_isLeaf (hn : n.isLeaf = true) : n.nodes = [n] := by
  cases n with
  | repetition => cases hn
  | group => cases hn
  | alternation => cases hn
  | concat => cases hn
  | _ => rfl

theorem has_of_mem_nodes (h : k ∈ n.nodes) : n.Has k := by
  induction n using Ast.induction with
  | leaf n hn =>
      rw [nodes_of_isLeaf hn] at h
      obtain rfl := List.mem_singleton.1 h
      exact .self _
  | repetition span kind operand ih =>
      rcases List.mem_cons.1 h with rfl | h
      · exact .self _
      · exact .operand (ih h)
  | group span captures changes body ih =>
      rcases List.mem_cons.1 h with rfl | h
      · exact .self _
      · exact .body (ih h)
  | alternation span asts ih =>
      rw [nodes, nodesOfList_eq_flatMap] at h
      rcases List.mem_cons.1 h with rfl | h
      · exact .self _
      · obtain ⟨m, hm, h⟩ := List.mem_flatMap.1 h
        exact .alternative hm (ih m hm h)
  | concat span asts ih =>
      rw [nodes, nodesOfList_eq_flatMap] at h
      rcases List.mem_cons.1 h with rfl | h
      · exact .self _
      · obtain ⟨m, hm, h⟩ := List.mem_flatMap.1 h
        exact .member hm (ih m hm h)

theorem Has.mem_nodes (h : n.Has k) : k ∈ n.nodes := by
  have hlist {ns : List Ast} {m : Ast} (hm : m ∈ ns) (hk : k ∈ m.nodes) : k ∈ nodesOfList ns := by
    rw [nodesOfList_eq_flatMap]
    exact List.mem_flatMap.2 ⟨m, hm, hk⟩
  induction h with
  | self n =>
      obtain ⟨inner, hnodes⟩ := n.exists_nodes_eq_cons
      rw [hnodes]
      exact List.mem_cons_self
  | operand _ ih => exact List.mem_cons_of_mem _ (ih hlist)
  | body _ ih => exact List.mem_cons_of_mem _ (ih hlist)
  | alternative hm _ ih => exact List.mem_cons_of_mem _ (hlist hm (ih hlist))
  | member hm _ ih => exact List.mem_cons_of_mem _ (hlist hm (ih hlist))

theorem mem_nodes_iff : k ∈ n.nodes ↔ n.Has k :=
  ⟨has_of_mem_nodes, Has.mem_nodes⟩

/-- Nodes that follow each other in the text do so with all that they consist of. -/
theorem pairwise_nodesOfList {ns : List Ast} (hformed : ∀ n ∈ ns, ∀ k, n.Has k → k.Formed)
    (hinside : ∀ n ∈ ns, n.nodes.Pairwise Before) (hrow : ns.Pairwise fun m n => m.span.stop ≤ n.span.start) :
    (nodesOfList ns).Pairwise Before := by
  rw [nodesOfList_eq_flatMap, List.pairwise_flatMap]
  refine ⟨hinside, hrow.imp_of_mem fun {m n} hm hn hmn j hj k hk => .inl ?_⟩
  have hj := ((has_of_mem_nodes hj).bounds (hformed m hm)).2
  have hk := ((has_of_mem_nodes hk).bounds (hformed n hn)).1
  omega

theorem pairwise_nodes (hformed : ∀ k, n.Has k → k.Formed) : n.nodes.Pairwise Before := by
  have hself (n : Ast) (hformed : ∀ k, n.Has k → k.Formed) (inner : List Ast) (hnodes : n.nodes = n :: inner)
      (hinner : inner.Pairwise Before) : n.nodes.Pairwise Before := by
    rw [hnodes]
    refine List.pairwise_cons.2 ⟨fun k hk => .inr ?_, hinner⟩
    exact (has_of_mem_nodes (hnodes ▸ List.mem_cons_of_mem n hk)).bounds hformed
  induction n using Ast.induction with
  | leaf n hn => exact hself n hformed [] (nodes_of_isLeaf hn) .nil
  | repetition span kind operand ih => exact hself _ hformed _ rfl (ih fun k hk => hformed k (.operand hk))
  | group span captures changes body ih => exact hself _ hformed _ rfl (ih fun k hk => hformed k (.body hk))
  | alternation span asts ih =>
      have hmembers (n : Ast) (hn : n ∈ asts) (k : Ast) (hk : n.Has k) : k.Formed := hformed k (.alternative hn hk)
      exact hself _ hformed _ rfl (pairwise_nodesOfList hmembers (fun n hn => ih n hn (hmembers n hn))
        (hformed _ (.self _)).2.1.pairwise)
  | concat span asts ih =>
      have hmembers (n : Ast) (hn : n ∈ asts) (k : Ast) (hk : n.Has k) : k.Formed := hformed k (.member hn hk)
      exact hself _ hformed _ rfl (pairwise_nodesOfList hmembers (fun n hn => ih n hn (hmembers n hn))
        (hformed _ (.self _)).2.1.pairwise)

/-! ### Texts -/

/-- The tree of a pattern fits the pattern. -/
theorem fits_of_read? {ast : Ast} (h : Ast.read? pattern = some ast) : ast.Fits pattern := by
  have horder := inOrder h
  refine ⟨fun n hn => ⟨(horder.of_has n hn).1, (horder.bounds (holds_singleton.2 hn)).2⟩, fun span kind operand hn => ?_⟩
  obtain ⟨-, -, -, hstart, hstop⟩ := horder.of_has _ hn
  exact ⟨hstart, Nat.le_of_lt hstop⟩

theorem Fits.of_has (h : n.Fits pattern) (hk : n.Has k) : k.Fits pattern :=
  ⟨fun m hm => h.span m (hk.trans hm), fun span kind operand hm => h.operand span kind operand (hk.trans hm)⟩

end Ast

theorem Span.marks_text {span : Span} (h : span.start ≤ span.stop) (hstop : span.stop ≤ pattern.length) :
    span.Marks pattern (span.text pattern.toList.toArray) := by
  have hlength : pattern.toList.length = pattern.length := String.length_toList
  refine ⟨pattern.toList.take span.start, pattern.toList.drop span.stop, ?_, ?_, ?_⟩
  · rw [text_eq, String.toList_ofList, ← List.drop_take, ← drop_eq_append h, List.take_append_drop]
  · rw [List.length_take]
    omega
  · rw [text_eq, String.toList_ofList, List.length_take, List.length_take, List.length_drop]
    omega

/-- Of two texts that begin at one place, that which ends first begins the other one. -/
theorem Span.Marks.isPrefix {span other : Span} {text longer : String} (h : span.Marks pattern text)
    (h' : other.Marks pattern longer) (hstart : span.start = other.start) (hstop : span.stop ≤ other.stop) :
    text.toList <+: longer.toList := by
  obtain ⟨before, after, hpattern, hbefore, hlength⟩ := h
  obtain ⟨before', after', hpattern', hbefore', hlength'⟩ := h'
  obtain ⟨rfl, hrest⟩ := List.append_inj (hpattern.symm.trans hpattern') (by omega)
  refine List.prefix_of_prefix_length_le ⟨after, rfl⟩ ⟨after', hrest.symm⟩ ?_
  omega

theorem Ast.Fits.marks (h : n.Fits pattern) : n.span.Marks pattern (n.span.text pattern.toList.toArray) :=
  Span.marks_text (h.span n (.self n)).1 (h.span n (.self n)).2

theorem text_piece (chars : Array Char) (n : Ast) : (n.piece chars).label.text = n.span.text chars := by
  cases n with
  | repetition span kind operand =>
      rw [Ast.piece, Piece.quantify]
      split
      · rfl
      · cases operand.piece chars <;> rfl
  | _ => rw [Ast.piece]; rfl

/-- The piece of a leaf. -/
theorem Ast.exists_piece_eq_leaf (hn : n.isLeaf = true) (chars : Array Char) :
    ∃ kind, n.leaf? = some kind ∧ n.piece chars = .leaf kind ⟨none, n.span.text chars, n.span.text chars⟩ := by
  cases n with
  | repetition => cases hn
  | group => cases hn
  | alternation => cases hn
  | concat => cases hn
  | _ =>
      refine ⟨_, rfl, ?_⟩
      rw [piece]
      rfl

/-! ### From nodes to pieces -/

theorem Ast.Becomes.isRepetition_eq (h : n.Becomes p) : n.isRepetition = false := by
  cases h with
  | leaf h =>
      cases n with
      | repetition => cases h
      | _ => rfl
  | group _ hn => exact hn

theorem Ast.Becomes.withLabel (h : n.Becomes p) (label : Label) : n.Becomes (p.withLabel label) := by
  cases h with
  | leaf h => exact .leaf h label
  | group h hn branches => exact .group h hn branches label

theorem Ast.becomes_group (hitem : n.isItem = false) (hleaf : n.isLeaf = false) (branches : List (List Piece))
    (label : Label) : n.Becomes (.group branches label) := by
  cases n with
  | alternation => exact .group rfl rfl branches label
  | concat => exact .group rfl rfl branches label
  | empty => cases hleaf
  | _ => cases hitem

/-- The first node that a piece is made from has its text. -/
theorem MadeFrom.exists_head {part : List Ast} (h : MadeFrom pattern part p) :
    ∃ n tail, part = n :: tail ∧ n.span.Marks pattern p.label.text ∧ p.label.bareText.toList <+: p.label.text.toList := by
  cases h with
  | bare hbecomes hlabel htext =>
      rw [hlabel]
      exact ⟨_, [], rfl, htext, List.prefix_refl _⟩
  | quantified _ hlabel _ _ htext hbegins =>
      rw [hlabel]
      exact ⟨_, _, rfl, htext, hbegins⟩
  | stacked _ _ _ _ htext hbegins => exact ⟨_, [], rfl, htext, hbegins⟩

namespace Traced

variable {nodes nodes' : List Ast} {pieces pieces' : List Piece}

theorem nil (pattern : String) : Traced pattern [] [] :=
  ⟨[], .nil, List.Sublist.refl _, rfl⟩

theorem append (h : Traced pattern nodes pieces) (h' : Traced pattern nodes' pieces') :
    Traced pattern (nodes ++ nodes') (pieces ++ pieces') := by
  obtain ⟨parts, hmade, hsub, hitems⟩ := h
  obtain ⟨parts', hmade', hsub', hitems'⟩ := h'
  refine ⟨parts ++ parts', List.rel_append hmade hmade', ?_, ?_⟩
  · rw [List.flatten_append]
    exact hsub.append hsub'
  · rw [List.flatten_append, List.filter_append, List.filter_append, hitems, hitems']

theorem cons {part : List Ast} (hpart : MadeFrom pattern part p) (h : Traced pattern nodes pieces) :
    Traced pattern (part ++ nodes) (p :: pieces) := by
  have hone : Traced pattern part [p] :=
    ⟨[part], .cons hpart .nil, by rw [List.flatten_singleton], by rw [List.flatten_singleton]⟩
  exact hone.append h

/-- A node that only joins others may be left out. -/
theorem skip (h : Traced pattern nodes pieces) (hn : n.isItem = false) : Traced pattern (n :: nodes) pieces := by
  obtain ⟨parts, hmade, hsub, hitems⟩ := h
  exact ⟨parts, hmade, hsub.cons n, by rw [hitems, List.filter_cons_of_neg (by simp [hn])]⟩

end Traced

/-- The piece is made from the node and perhaps the one below it, and those inside the piece from what stands in these. -/
def Ast.TracedTo (pattern : String) (n : Ast) (p : Piece) : Prop :=
  ∃ tail rest, n.nodes = n :: (tail ++ rest) ∧ MadeFrom pattern (n :: tail) p ∧ Traced pattern rest p.inner

theorem Ast.TracedTo.traced (h : n.TracedTo pattern p) : Traced pattern n.nodes p.all := by
  obtain ⟨tail, rest, hnodes, hmade, hinner⟩ := h
  rw [hnodes, Piece.all_eq_cons]
  exact .cons hmade hinner

/-- A quantifier goes into the piece that has none, and it makes a group of one that has. -/
theorem tracedTo_repetition {span : Span} {kind : RepetitionKind} {operand : Ast}
    (hfits : (Ast.repetition span kind operand).Fits pattern)
    (h : operand.TracedTo pattern (operand.piece pattern.toList.toArray)) :
    (Ast.repetition span kind operand).TracedTo pattern
      ((Ast.repetition span kind operand).piece pattern.toList.toArray) := by
  obtain ⟨hstart, hstop⟩ := hfits.operand _ _ _ (.self _)
  have hmarks := (hfits.of_has (.operand (.self operand))).marks
  have htext := hfits.marks
  have hbegins := hmarks.isPrefix htext hstart hstop
  have hbounds := kind.bounds_quantifier
  have hquantifier := quantifier_piece pattern.toList.toArray operand
  rw [← text_piece] at hmarks hbegins
  rw [Ast.piece, Piece.quantify]
  cases hrepetition : operand.isRepetition with
  | true =>
      rw [hquantifier, isSome_quantifier?, hrepetition, if_pos rfl]
      refine ⟨[], operand.nodes, rfl, .stacked hrepetition hquantifier hbounds hmarks htext hbegins, ?_⟩
      rw [Piece.inner_group, allOfBranches_singleton, allOfBranch_singleton]
      exact h.traced
  | false =>
      rw [hquantifier, isSome_quantifier?, hrepetition, if_neg Bool.false_ne_true]
      obtain ⟨tail, rest, hnodes, hmade, hinner⟩ := h
      generalize operand.piece pattern.toList.toArray = p at *
      cases hmade with
      | @bare _ _ text hbecomes hlabel hbare =>
          refine ⟨[operand], rest, by rw [Ast.nodes, hnodes]; rfl, ?_, by cases p <;> exact hinner⟩
          rw [hlabel] at hmarks hbegins
          refine .quantified (hbecomes.withLabel _) ?_ hbounds hmarks htext hbegins
          rw [hlabel]
          cases p <;> rfl
      | quantified => cases hrepetition
      | stacked => cases hrepetition

/-- The nodes of a tree go into the pieces of its outline, wherever it stands. -/
structure Ast.Traces (pattern : String) (n : Ast) : Prop where
  piece : n.TracedTo pattern (n.piece pattern.toList.toArray)
  branch : Traced pattern n.nodes (allOfBranch (n.branch pattern.toList.toArray))
  alternatives : Traced pattern n.nodes (allOfBranches (n.alternatives pattern.toList.toArray))

theorem traced_of_branch (hn : n.isAlternation = false)
    (h : Traced pattern n.nodes (allOfBranch (n.branch pattern.toList.toArray))) :
    Traced pattern n.nodes (allOfBranches (n.alternatives pattern.toList.toArray)) := by
  rwa [Ast.alternatives_of_isAlternation_eq_false _ hn, allOfBranches_singleton]

theorem traces_of_isItem (hn : n.isItem = true) (h : n.TracedTo pattern (n.piece pattern.toList.toArray)) :
    n.Traces pattern := by
  have hbranch : Traced pattern n.nodes (allOfBranch (n.branch pattern.toList.toArray)) := by
    rw [Ast.branch_of_isItem _ hn, allOfBranch_singleton]
    exact h.traced
  exact ⟨h, hbranch, traced_of_branch (Ast.isAlternation_of_isItem hn) hbranch⟩

theorem traced_branches {asts : List Ast} (h : ∀ n ∈ asts, n.Traces pattern) :
    Traced pattern (Ast.nodesOfList asts) (allOfBranches (asts.map (Ast.branch pattern.toList.toArray))) := by
  induction asts with
  | nil => exact .nil pattern
  | cons n asts ih =>
      obtain ⟨hn, hasts⟩ := List.forall_mem_cons.1 h
      rw [Ast.nodesOfList, List.map_cons, allOfBranches]
      exact hn.branch.append (ih hasts)

theorem traced_members {asts : List Ast} (h : ∀ n ∈ asts, n.Traces pattern) :
    Traced pattern (Ast.nodesOfList asts) (allOfBranch (asts.flatMap (Ast.branch pattern.toList.toArray))) := by
  induction asts with
  | nil => exact .nil pattern
  | cons n asts ih =>
      obtain ⟨hn, hasts⟩ := List.forall_mem_cons.1 h
      rw [Ast.nodesOfList, List.flatMap_cons, allOfBranch_append]
      exact hn.branch.append (ih hasts)

/-- What is inside a node that joins others goes into its alternatives, whether they become a group or not. -/
theorem traces_of_joins {inner : List Ast} (hfits : n.Fits pattern) (hnodes : n.nodes = n :: inner)
    (hitem : n.isItem = false) (hleaf : n.isLeaf = false)
    (h : Traced pattern inner (allOfBranches (n.alternatives pattern.toList.toArray))) : n.Traces pattern := by
  have hpiece : n.TracedTo pattern (n.piece pattern.toList.toArray) := by
    rw [Ast.piece_of_joins _ hitem hleaf]
    exact ⟨[], inner, hnodes, .bare (Ast.becomes_group hitem hleaf _ _) rfl hfits.marks, h⟩
  have halternatives : Traced pattern n.nodes (allOfBranches (n.alternatives pattern.toList.toArray)) := by
    rw [hnodes]
    exact h.skip hitem
  refine ⟨hpiece, ?_, halternatives⟩
  cases n with
  | alternation span asts =>
      rw [Ast.branch_alternation, allOfBranch_singleton]
      exact hpiece.traced
  | concat span asts =>
      rwa [Ast.alternatives_of_isAlternation_eq_false _ rfl, allOfBranches_singleton] at halternatives
  | empty => cases hleaf
  | _ => cases hitem

/-- **The nodes of a tree go into the pieces of its outline**, one after the other. -/
theorem Ast.traces (hfits : n.Fits pattern) : n.Traces pattern := by
  induction n using Ast.induction with
  | leaf n hn =>
      obtain ⟨kind, hkind, hleaf⟩ := exists_piece_eq_leaf hn pattern.toList.toArray
      have hpiece : n.TracedTo pattern (n.piece pattern.toList.toArray) := by
        rw [hleaf]
        exact ⟨[], [], nodes_of_isLeaf hn, .bare (.leaf hkind _) rfl hfits.marks, .nil pattern⟩
      rcases isItem_or_eq_empty hn with hitem | ⟨span, rfl⟩
      · exact traces_of_isItem hitem hpiece
      · have hbranch : Traced pattern (Ast.empty span).nodes
            (allOfBranch ((Ast.empty span).branch pattern.toList.toArray)) := by
          rw [branch_empty]
          exact (Traced.nil pattern).skip rfl
        exact ⟨hpiece, hbranch, traced_of_branch rfl hbranch⟩
  | repetition span kind operand ih =>
      exact traces_of_isItem rfl (tracedTo_repetition hfits (ih (hfits.of_has (.operand (.self _)))).piece)
  | group span captures changes body ih =>
      refine traces_of_isItem rfl ?_
      rw [piece]
      exact ⟨[], body.nodes, rfl, .bare (.group rfl rfl _ _) rfl hfits.marks,
        (ih (hfits.of_has (.body (.self _)))).alternatives⟩
  | alternation span asts ih =>
      refine traces_of_joins hfits rfl rfl rfl ?_
      rw [alternatives]
      exact traced_branches fun n hn => ih n hn (hfits.of_has (.alternative hn (.self n)))
  | concat span asts ih =>
      refine traces_of_joins hfits rfl rfl rfl ?_
      rw [alternatives_of_isAlternation_eq_false _ rfl, branch, allOfBranches_singleton]
      exact traced_members fun n hn => ih n hn (hfits.of_has (.member hn (.self n)))

/-! ### Where alternatives come from -/

namespace Sourced

variable {nodes nodes' : List Ast} {branchings branchings' : List (List (List Piece))}

theorem nil (pattern : String) : Sourced pattern [] [] :=
  ⟨[], .nil, rfl⟩

theorem append (h : Sourced pattern nodes branchings) (h' : Sourced pattern nodes' branchings') :
    Sourced pattern (nodes ++ nodes') (branchings ++ branchings') := by
  obtain ⟨sources, hgives, hsources⟩ := h
  obtain ⟨sources', hgives', hsources'⟩ := h'
  exact ⟨sources ++ sources', List.rel_append hgives hgives',
    by rw [List.filterMap_append, List.filter_append, hsources, hsources']⟩

theorem skip (h : Sourced pattern nodes branchings) (hn : n.isAlternation = false) :
    Sourced pattern (n :: nodes) branchings := by
  obtain ⟨sources, hgives, hsources⟩ := h
  exact ⟨sources, hgives, by rw [hsources, List.filter_cons_of_neg (by simp [hn])]⟩

theorem single (h : Sourced pattern nodes branchings) (b : List Piece) : Sourced pattern nodes ([b] :: branchings) := by
  obtain ⟨sources, hgives, hsources⟩ := h
  exact ⟨none :: sources, .cons (.single b) hgives, hsources⟩

theorem alternation {span : Span} {asts : List Ast} {branches : List (List Piece)}
    (h : Sourced pattern nodes branchings) (hgives : Gives pattern (some (.alternation span asts)) branches) :
    Sourced pattern (.alternation span asts :: nodes) (branches :: branchings) := by
  obtain ⟨sources, hall, hsources⟩ := h
  refine ⟨some (.alternation span asts) :: sources, .cons hgives hall, ?_⟩
  rw [List.filterMap_cons_some (f := id) rfl, hsources, List.filter_cons_of_pos rfl]

end Sourced

/-- An alternation gives one list of alternatives, wherever the tree stands. -/
structure Ast.Sources (pattern : String) (n : Ast) : Prop where
  piece : Sourced pattern n.nodes ((n.piece pattern.toList.toArray).all.filterMap Piece.branches?)
  branch : Sourced pattern n.nodes ((allOfBranch (n.branch pattern.toList.toArray)).filterMap Piece.branches?)
  alternatives : Sourced pattern n.nodes (n.alternatives pattern.toList.toArray ::
    (allOfBranches (n.alternatives pattern.toList.toArray)).filterMap Piece.branches?)

theorem sourced_of_branch (hn : n.isAlternation = false)
    (h : Sourced pattern n.nodes ((allOfBranch (n.branch pattern.toList.toArray)).filterMap Piece.branches?)) :
    Sourced pattern n.nodes (n.alternatives pattern.toList.toArray ::
      (allOfBranches (n.alternatives pattern.toList.toArray)).filterMap Piece.branches?) := by
  rw [Ast.alternatives_of_isAlternation_eq_false _ hn, allOfBranches_singleton]
  exact h.single _

theorem sources_of_isItem (hn : n.isItem = true)
    (h : Sourced pattern n.nodes ((n.piece pattern.toList.toArray).all.filterMap Piece.branches?)) :
    n.Sources pattern := by
  have hbranch : Sourced pattern n.nodes
      ((allOfBranch (n.branch pattern.toList.toArray)).filterMap Piece.branches?) := by
    rwa [Ast.branch_of_isItem _ hn, allOfBranch_singleton]
  exact ⟨h, hbranch, sourced_of_branch (Ast.isAlternation_of_isItem hn) hbranch⟩

theorem filterMap_branches?_group (branches : List (List Piece)) (label : Label) :
    (Piece.group branches label).all.filterMap Piece.branches? =
      branches :: (allOfBranches branches).filterMap Piece.branches? :=
  List.filterMap_cons_some rfl

/-- As one piece, nodes that are joined give the alternatives that they have by themselves. -/
theorem sourced_piece_of_joins (hitem : n.isItem = false) (hleaf : n.isLeaf = false)
    (h : Sourced pattern n.nodes (n.alternatives pattern.toList.toArray ::
      (allOfBranches (n.alternatives pattern.toList.toArray)).filterMap Piece.branches?)) :
    Sourced pattern n.nodes ((n.piece pattern.toList.toArray).all.filterMap Piece.branches?) := by
  rwa [Ast.piece_of_joins _ hitem hleaf, filterMap_branches?_group]

theorem sourced_branches {asts : List Ast} (h : ∀ n ∈ asts, n.Sources pattern) : Sourced pattern (Ast.nodesOfList asts)
    ((allOfBranches (asts.map (Ast.branch pattern.toList.toArray))).filterMap Piece.branches?) := by
  induction asts with
  | nil => exact .nil pattern
  | cons n asts ih =>
      obtain ⟨hn, hasts⟩ := List.forall_mem_cons.1 h
      rw [Ast.nodesOfList, List.map_cons, allOfBranches, List.filterMap_append]
      exact hn.branch.append (ih hasts)

theorem sourced_members {asts : List Ast} (h : ∀ n ∈ asts, n.Sources pattern) : Sourced pattern (Ast.nodesOfList asts)
    ((allOfBranch (asts.flatMap (Ast.branch pattern.toList.toArray))).filterMap Piece.branches?) := by
  induction asts with
  | nil => exact .nil pattern
  | cons n asts ih =>
      obtain ⟨hn, hasts⟩ := List.forall_mem_cons.1 h
      rw [Ast.nodesOfList, List.flatMap_cons, allOfBranch_append, List.filterMap_append]
      exact hn.branch.append (ih hasts)

/-- The alternatives of an alternation, with a piece for each node that stands in them. -/
theorem gives_alternation {span : Span} {asts : List Ast} (hfits : (Ast.alternation span asts).Fits pattern) :
    Gives pattern (some (.alternation span asts)) (asts.map (Ast.branch pattern.toList.toArray)) := by
  refine .alternation (List.forall₂_map_right_iff.2 (List.forall₂_same.2 fun a ha => ?_))
  rw [Ast.branch_eq_map]
  refine List.forall₂_map_right_iff.2 (List.forall₂_same.2 fun m hm => ?_)
  rw [text_piece]
  exact (hfits.of_has (.alternative ha (Ast.has_of_mem_row hm))).marks

/-- **The alternations of a tree are the only alternatives in its outline** but for single ones, in order. -/
theorem Ast.sources (hfits : n.Fits pattern) : n.Sources pattern := by
  induction n using Ast.induction with
  | leaf n hn =>
      have hnodes : Sourced pattern n.nodes [] := by
        rw [nodes_of_isLeaf hn]
        exact (Sourced.nil pattern).skip (isAlternation_of_isLeaf hn)
      obtain ⟨kind, -, hleaf⟩ := exists_piece_eq_leaf hn pattern.toList.toArray
      have hpiece : Sourced pattern n.nodes ((n.piece pattern.toList.toArray).all.filterMap Piece.branches?) := by
        rw [hleaf]
        exact hnodes
      rcases isItem_or_eq_empty hn with hitem | ⟨span, rfl⟩
      · exact sources_of_isItem hitem hpiece
      · have hbranch : Sourced pattern (Ast.empty span).nodes
            ((allOfBranch ((Ast.empty span).branch pattern.toList.toArray)).filterMap Piece.branches?) := by
          rw [branch_empty]
          exact hnodes
        exact ⟨hpiece, hbranch, sourced_of_branch rfl hbranch⟩
  | repetition span kind operand ih =>
      have hoperand := (ih (hfits.of_has (.operand (.self _)))).piece.skip (n := .repetition span kind operand) rfl
      refine sources_of_isItem rfl ?_
      rw [piece, Piece.quantify]
      split
      · rw [filterMap_branches?_group, allOfBranches_singleton, allOfBranch_singleton]
        exact hoperand.single _
      · generalize operand.piece pattern.toList.toArray = p at *
        cases p <;> exact hoperand
  | group span captures changes body ih =>
      refine sources_of_isItem rfl ?_
      rw [piece, filterMap_branches?_group]
      exact (ih (hfits.of_has (.body (.self _)))).alternatives.skip rfl
  | alternation span asts ih =>
      have halternatives : Sourced pattern (Ast.alternation span asts).nodes
          ((Ast.alternation span asts).alternatives pattern.toList.toArray ::
            (allOfBranches ((Ast.alternation span asts).alternatives pattern.toList.toArray)).filterMap
              Piece.branches?) := by
        rw [alternatives]
        exact (sourced_branches fun n hn => ih n hn (hfits.of_has (.alternative hn (.self n)))).alternation
          (gives_alternation hfits)
      have hpiece := sourced_piece_of_joins rfl rfl halternatives
      refine ⟨hpiece, ?_, halternatives⟩
      rw [branch_alternation, allOfBranch_singleton]
      exact hpiece
  | concat span asts ih =>
      have hmembers := (sourced_members fun n hn => ih n hn (hfits.of_has (.member hn (.self n)))).skip
        (n := .concat span asts) rfl
      have hbranch : Sourced pattern (Ast.concat span asts).nodes
          ((allOfBranch ((Ast.concat span asts).branch pattern.toList.toArray)).filterMap Piece.branches?) := by
        rw [branch]
        exact hmembers
      have halternatives := sourced_of_branch rfl hbranch
      exact ⟨sourced_piece_of_joins rfl rfl halternatives, hbranch, halternatives⟩

/-! ### What is kept -/

/-- What holds of each piece and what it is made from holds of all pieces that are picked out. -/
theorem forall₂_filter_flatten {P : List Ast → Piece → Prop} {R : Ast → Piece → Prop} {f : Ast → Bool}
    {g : Piece → Bool} (hstep : ∀ part p, P part p → List.Forall₂ R (part.filter f) ([p].filter g))
    {parts : List (List Ast)} {pieces : List Piece} (h : List.Forall₂ P parts pieces) :
    List.Forall₂ R (parts.flatten.filter f) (pieces.filter g) := by
  induction h with
  | nil => exact .nil
  | @cons part p parts pieces hpart _ ih =>
      have hsplit : (p :: pieces).filter g = [p].filter g ++ pieces.filter g := List.filter_append [p] pieces
      rw [List.flatten_cons, List.filter_append, hsplit]
      exact List.rel_append (hstep part p hpart) ih

/-- Nodes that do not only join others are all found among the parts. -/
theorem Traced.forall₂_filter {nodes : List Ast} {pieces : List Piece} (h : Traced pattern nodes pieces)
    {R : Ast → Piece → Prop} {f : Ast → Bool} {g : Piece → Bool} (hitem : ∀ n, f n = true → n.isItem = true)
    (hstep : ∀ part p, MadeFrom pattern part p → List.Forall₂ R (part.filter f) ([p].filter g)) :
    List.Forall₂ R (nodes.filter f) (pieces.filter g) := by
  obtain ⟨parts, hmade, -, hitems⟩ := h
  have hfilter (l : List Ast) : (l.filter (·.isItem)).filter f = l.filter f := by
    rw [List.filter_filter]
    exact List.filter_congr fun n _ => by
      cases hf : f n with
      | true => rw [hitem n hf]; rfl
      | false => rfl
  rw [← hfilter nodes, ← hitems, hfilter]
  exact forall₂_filter_flatten hstep hmade

namespace MadeFrom

variable {part : List Ast}

theorem leaf (h : MadeFrom pattern part p) :
    List.Forall₂ (fun n p => p.leaf? = n.leaf? ∧ n.span.Marks pattern p.label.bareText)
      (part.filter (·.leaf?.any Leaf.takesCharacter)) ([p].filter (·.leaf?.any Leaf.takesCharacter)) := by
  have hone {n : Ast} {p : Piece} (h : n.Becomes p) (hbare : n.span.Marks pattern p.label.bareText) :
      List.Forall₂ (fun n p => p.leaf? = n.leaf? ∧ n.span.Marks pattern p.label.bareText)
        ([n].filter (·.leaf?.any Leaf.takesCharacter)) ([p].filter (·.leaf?.any Leaf.takesCharacter)) := by
    have hsame : p.leaf? = n.leaf? := by
      cases h with
      | leaf hkind => exact hkind.symm
      | group hnone => exact hnone.symm
    cases htakes : n.leaf?.any Leaf.takesCharacter with
    | true =>
        rw [List.filter_cons_of_pos (by exact htakes), List.filter_cons_of_pos (by rw [hsame, htakes])]
        exact .cons ⟨hsame, hbare⟩ .nil
    | false =>
        rw [List.filter_cons_of_neg (by simp [htakes]), List.filter_cons_of_neg (by simp [hsame, htakes])]
        exact .nil
  cases h with
  | bare hbecomes hlabel htext => exact hone hbecomes (by rwa [hlabel])
  | quantified hbecomes hlabel _ hbare => exact hone hbecomes (by rwa [hlabel])
  | stacked => exact .nil

theorem quantifier (h : MadeFrom pattern part p) :
    List.Forall₂ (Quantifies pattern) (part.filter (·.isRepetition)) ([p].filter (·.quantifier.isSome)) := by
  cases h with
  | @bare n _ text hbecomes hlabel htext =>
      rw [List.filter_cons_of_neg (by simp [hbecomes.isRepetition_eq]),
        List.filter_cons_of_neg (by simp [Piece.quantifier, hlabel])]
      exact .nil
  | @quantified span kind n _ q bareText text hbecomes hlabel hbounds hbare htext =>
      have hquantifier : p.quantifier = some q := congrArg Label.quantifier hlabel
      rw [List.filter_cons_of_pos rfl, List.filter_cons_of_neg (by simp [hbecomes.isRepetition_eq]),
        List.filter_cons_of_pos (by simp [hquantifier])]
      exact .cons (.atom hbecomes hquantifier hbounds (by rwa [hlabel]) (by rwa [hlabel])) .nil
  | @stacked span kind n q _ text hrepetition hinner hbounds hbare htext =>
      cases n with
      | repetition span' kind' =>
          exact .cons (.stacked hinner kind'.bounds_quantifier hbounds hbare htext) .nil
      | _ => cases hrepetition

end MadeFrom

/-- **An outline keeps the structure of its tree.** The nodes of a tree whose spans lie in the pattern are shared out, in
the order of the text, among the pieces of its outline in the same order. So there is one leaf for each literal, class and
wildcard, and it is of that kind; one piece with a quantifier for each repetition, with its bounds, and where
quantifiers are stacked the outer one is put on a group around the piece with the inner one; and each alternation gives as
many alternatives, empty ones included. The text of every piece is what its node was read from, and begins with the text
of what it has a quantifier for. The spans of the tree that is read from a pattern are of that kind, and its nodes are
listed in the order in which they stand in the pattern. -/
theorem Ast.outline_keeps_structure (pattern : String) (ast : Ast) :
    (ast.Fits pattern → Keeps pattern ast (ast.outline pattern)) ∧
      (Ast.read? pattern = some ast → ast.Fits pattern ∧ ast.nodes.Pairwise Before) := by
  refine ⟨fun hfits => ?_, fun hread => ⟨fits_of_read? hread, pairwise_nodes (inOrder hread).of_has⟩⟩
  have htraced := (traces hfits).alternatives
  exact {
    nodes := fun n => mem_nodes_iff
    parts := htraced
    leaves := htraced.forall₂_filter (fun n hn => by cases n <;> first | rfl | cases hn) fun _ _ h => h.leaf
    quantifiers := htraced.forall₂_filter (fun n hn => by cases n <;> first | rfl | cases hn) fun _ _ h => h.quantifier
    alternatives := (sources hfits).alternatives
    texts := fun p hp => by
      obtain ⟨parts, hmade, hsub, -⟩ := htraced
      obtain ⟨part, hpart, hmade⟩ := exists_left_of_forall₂ hmade hp
      obtain ⟨n, tail, rfl, htext, hbegins⟩ := hmade.exists_head
      exact ⟨hbegins, n, hsub.subset (List.mem_flatten.2 ⟨_, hpart, List.mem_cons_self⟩), htext⟩ }

/-- Two quantifiers on a group with an empty alternative, and behind it a wildcard. -/
def stackedTree : Ast :=
  .concat ⟨0, 8⟩ [.repetition ⟨0, 6⟩ .oneOrMore (.repetition ⟨0, 5⟩ .zeroOrMore (.group ⟨0, 4⟩ true []
    (.alternation ⟨1, 3⟩ [.literal ⟨1, 2⟩ ⟨'a', false⟩, .empty ⟨3, 3⟩]))), .repetition ⟨6, 8⟩ .zeroOrOne (.dot ⟨6, 7⟩)]

theorem Ast.outline_keeps_structure_stacked :
    Ast.read? "(a|)*+.?" = some stackedTree ∧ stackedTree.Fits "(a|)*+.?" ∧
      Keeps "(a|)*+.?" stackedTree (stackedTree.outline "(a|)*+.?") ∧
      (allOfBranches (stackedTree.outline "(a|)*+.?")).map (fun p => (p.quantifier, p.label.bareText, p.label.text)) =
        [(some ⟨1, none⟩, "(a|)*", "(a|)*+"), (some ⟨0, none⟩, "(a|)", "(a|)*"), (none, "a", "a"),
          (some ⟨0, some 1⟩, ".", ".?")] := by
  have hread : Ast.read? "(a|)*+.?" = some stackedTree := by rfl
  have hfits := ((Ast.outline_keeps_structure _ _).2 hread).1
  exact ⟨hread, hfits, (Ast.outline_keeps_structure _ _).1 hfits, by decide +kernel⟩

end Attest.Regex

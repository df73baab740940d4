import Attest.Pattern.Outline
import Attest.Proofs.Regex.Spans

/-!
The alternatives of a tree as rows of nodes. Which nodes join others is left out: an alternation has one row for each
alternative, any other tree has one row, and in a row stand the nodes of a concatenation. So the outline of a tree has a
piece for each node in a row (`alternatives_eq_map`), and the rows of a tree that was read from a pattern follow each other
in the text (`row_rows`).
-/

namespace Attest.Regex

open Pattern

namespace Ast

mutual

/-- What stands in an alternative. -/
def row : Ast → List Ast
  | .empty _ => []
  | .concat _ asts => rowOfList asts
  | other => [other]
termination_by structural n => n

def rowOfList : List Ast → List Ast
  | [] => []
  | n :: ns => n.row ++ rowOfList ns
termination_by structural ns => ns

end

def rows : Ast → List (List Ast)
  | .alternation _ asts => asts.map row
  | other => [other.row]

variable {n m : Ast} {ns : List Ast}

theorem rowOfList_eq_flatMap (ns : List Ast) : rowOfList ns = ns.flatMap row := by
  induction ns with
  | nil => rfl
  | cons n ns ih => rw [rowOfList, ih, List.flatMap_cons]

theorem row_of_isItem (hn : n.isItem = true) : n.row = [n] := by
  cases n with
  | empty => cases hn
  | concat => cases hn
  | _ => rfl

theorem rowOfList_of_isItem (h : ∀ n ∈ ns, n.isItem = true) : rowOfList ns = ns := by
  induction ns with
  | nil => rfl
  | cons n ns ih =>
      obtain ⟨hn, hns⟩ := List.forall_mem_cons.1 h
      rw [rowOfList, row_of_isItem hn, ih hns, List.singleton_append]

theorem rows_of_isAlternation_eq_false (hn : n.isAlternation = false) : n.rows = [n.row] := by
  cases n with
  | alternation => cases hn
  | _ => rfl

theorem isAlternation_of_isItem (hn : n.isItem = true) : n.isAlternation = false := by
  cases n with
  | alternation => cases hn
  | _ => rfl

theorem isAlternation_of_isLeaf (hn : n.isLeaf = true) : n.isAlternation = false := by
  cases n with
  | alternation => cases hn
  | _ => rfl

/-! ### Pieces -/

variable (pattern : Array Char)

theorem branch_empty (span : Span) : (Ast.empty span).branch pattern = [] := by
  rw [branch]

theorem branch_alternation (span : Span) (asts : List Ast) :
    (Ast.alternation span asts).branch pattern = [(Ast.alternation span asts).piece pattern] := by
  rw [branch] <;> (intros; contradiction)

theorem branch_of_isItem (hn : n.isItem = true) : n.branch pattern = [n.piece pattern] := by
  cases n with
  | empty => cases hn
  | concat => cases hn
  | _ => rw [branch] <;> (intros; contradiction)

/-- There is a piece for each node in the row. -/
theorem branch_eq_map (n : Ast) : n.branch pattern = n.row.map (piece pattern) := by
  have hitem (n : Ast) (hn : n.isItem = true) : n.branch pattern = n.row.map (piece pattern) := by
    rw [branch_of_isItem _ hn, row_of_isItem hn, List.map_singleton]
  induction n using Ast.induction with
  | leaf n hn =>
      rcases isItem_or_eq_empty hn with hn | ⟨span, rfl⟩
      · exact hitem n hn
      · rw [branch_empty, row, List.map_nil]
  | alternation span asts => exact branch_alternation pattern span asts
  | concat span asts ih => rw [branch, row, rowOfList_eq_flatMap, List.map_flatMap, List.flatMap_congr ih]
  | _ => exact hitem _ rfl

theorem alternatives_eq_map (n : Ast) : n.alternatives pattern = n.rows.map (·.map (piece pattern)) := by
  cases n with
  | alternation span asts =>
      rw [alternatives, rows, List.map_map]
      exact List.map_congr_left fun n _ => n.branch_eq_map pattern
  | _ =>
      rw [rows_of_isAlternation_eq_false rfl, List.map_singleton, alternatives, branch_eq_map]
      intros
      contradiction

theorem alternatives_of_isAlternation_eq_false (hn : n.isAlternation = false) :
    n.alternatives pattern = [n.branch pattern] := by
  rw [alternatives_eq_map, rows_of_isAlternation_eq_false hn, List.map_singleton, branch_eq_map]

/-- Several nodes that are joined go, as one piece, into a group of their alternatives. -/
theorem piece_of_joins (hitem : n.isItem = false) (hleaf : n.isLeaf = false) :
    n.piece pattern = .group (n.alternatives pattern) ⟨none, n.span.text pattern, n.span.text pattern⟩ := by
  cases n with
  | alternation span asts => rw [piece, alternatives, Ast.span]
  | concat span asts => rw [piece, alternatives_of_isAlternation_eq_false pattern rfl, branch, Ast.span]
  | empty => cases hleaf
  | _ => cases hitem

/-! ### Nodes in the rows -/

theorem has_of_mem_row (h : m ∈ n.row) : n.Has m := by
  induction n using Ast.induction with
  | concat span asts ih =>
      rw [row, rowOfList_eq_flatMap, List.mem_flatMap] at h
      obtain ⟨k, hk, h⟩ := h
      exact .member hk (ih k hk h)
  | leaf n hn =>
      rcases isItem_or_eq_empty hn with hitem | ⟨span, rfl⟩
      · rw [row_of_isItem hitem] at h
        obtain rfl := List.mem_singleton.1 h
        exact .self _
      · cases h
  | _ =>
      obtain rfl := List.mem_singleton.1 h
      exact .self _

theorem has_of_mem_rows (h : m ∈ n.rows.flatten) : n.Has m := by
  cases n with
  | alternation span asts =>
      obtain ⟨_, hrow, h⟩ := List.mem_flatten.1 h
      obtain ⟨k, hk, rfl⟩ := List.mem_map.1 hrow
      exact .alternative hk (has_of_mem_row h)
  | _ =>
      rw [rows_of_isAlternation_eq_false rfl, List.flatten_singleton] at h
      exact has_of_mem_row h

/-- A node as it stands in a row of a tree that was read from a pattern. -/
structure WellRead (n : Ast) : Prop where
  isItem : n.isItem = true
  formed : ∀ k, n.Has k → k.Formed

theorem WellRead.lt (h : n.WellRead) : n.span.start < n.span.stop :=
  lt_of_isItem h.formed h.isItem

theorem isItem_of_mem_row (hformed : n.Formed) (hn : n.isAlternation = false) (h : m ∈ n.row) : m.isItem = true := by
  cases n with
  | empty => cases h
  | alternation => cases hn
  | concat span asts =>
      rw [row, rowOfList_of_isItem hformed.2.2] at h
      exact hformed.2.2 m h
  | _ =>
      obtain rfl := List.mem_singleton.1 h
      rfl

theorem wellRead_of_mem_rows (hformed : ∀ k, n.Has k → k.Formed) (h : m ∈ n.rows.flatten) : m.WellRead := by
  refine ⟨?_, fun k hk => hformed k ((has_of_mem_rows h).trans hk)⟩
  have hself := hformed n (.self n)
  cases n with
  | alternation span asts =>
      obtain ⟨_, hrow, h⟩ := List.mem_flatten.1 h
      obtain ⟨k, hk, rfl⟩ := List.mem_map.1 hrow
      exact isItem_of_mem_row (hformed k (.alternative hk (.self k))) (hself.2.2 k hk) h
  | _ =>
      rw [rows_of_isAlternation_eq_false rfl, List.flatten_singleton] at h
      exact isItem_of_mem_row hself rfl h

/-- What stands in a row follows each other in the text. -/
theorem row_row (hformed : n.Formed) (hn : n.isAlternation = false) : Row n.span.start n.span.stop n.row := by
  cases n with
  | empty => constructor <;> simp [row]
  | alternation => cases hn
  | concat span asts =>
      rw [row, rowOfList_of_isItem hformed.2.2]
      exact hformed.2.1
  | _ => exact row_singleton (Nat.le_refl _) (Nat.le_refl _)

/-- And so do the rows. -/
theorem row_rows (hformed : ∀ k, n.Has k → k.Formed) : Row n.span.start n.span.stop n.rows.flatten := by
  have hself := hformed n (.self n)
  cases n with
  | alternation span asts =>
      obtain ⟨-, ⟨hlower, hupper, hpairwise⟩, halternatives⟩ := hself
      have hrow (k : Ast) (hk : k ∈ asts) : Row k.span.start k.span.stop k.row :=
        row_row (hformed k (.alternative hk (.self k))) (halternatives k hk)
      have hmem {m : Ast} (hm : m ∈ (asts.map row).flatten) : ∃ k ∈ asts, m ∈ k.row := by
        obtain ⟨_, hmap, hm⟩ := List.mem_flatten.1 hm
        obtain ⟨k, hk, rfl⟩ := List.mem_map.1 hmap
        exact ⟨k, hk, hm⟩
      refine ⟨fun m hm => ?_, fun m hm => ?_, List.pairwise_flatten.2 ⟨?_, ?_⟩⟩
      · obtain ⟨k, hk, hm⟩ := hmem hm
        exact Nat.le_trans (hlower k hk) ((hrow k hk).lower m hm)
      · obtain ⟨k, hk, hm⟩ := hmem hm
        exact Nat.le_trans ((hrow k hk).upper m hm) (hupper k hk)
      · exact List.forall_mem_map.2 fun k hk => (hrow k hk).pairwise
      · refine List.pairwise_map.2 (hpairwise.imp_of_mem fun {k l} hk hl hkl a ha b hb => ?_)
        exact Nat.le_trans ((hrow k hk).upper a ha) (Nat.le_trans hkl ((hrow l hl).lower b hb))
  | _ =>
      rw [rows_of_isAlternation_eq_false rfl, List.flatten_singleton]
      exact row_row hself rfl

end Ast

end Attest.Regex

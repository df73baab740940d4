import Attest.Regex.Program
import Attest.Proofs.Regex.Enclosing.Reading
import Attest.Proofs.Regex.Rows

/-!
What the group around a node leaves alone. The pieces of the other nodes are the same, and so is what the pattern
matches, because the group neither captures nor changes flags.
-/

namespace Attest.Regex

open Pattern

/-! ### Texts -/

theorem text_eq (span : Span) (cs : List Char) :
    span.text cs.toArray = String.ofList ((cs.drop span.start).take (span.stop - span.start)) := by
  rw [Span.text, Array.toList_extract, List.extract_eq_take_drop]

/-- The text of a span in the middle of a list depends on the middle only. -/
theorem text_middle (front middle back : List Char) {span : Span} (hstop : span.stop ≤ middle.length) :
    (span.move front.length).text (front ++ (middle ++ back)).toArray = span.text middle.toArray := by
  rw [text_eq, text_eq, Span.move, Nat.add_comm span.start, ← List.drop_drop, List.drop_left]
  rw [show span.stop + front.length - (front.length + span.start) = span.stop - span.start by omega]
  by_cases hstart : span.start ≤ middle.length
  · rw [List.drop_append_of_le_length hstart, List.take_append_of_le_length]
    rw [List.length_drop]
    omega
  · rw [show span.stop - span.start = 0 by omega, List.take_zero, List.take_zero]

variable {x span : Span} {pattern : String}

/-- What stands before, in and behind a part of a pattern. -/
theorem exists_parts (hx : x.start ≤ x.stop) (hpattern : x.stop ≤ pattern.length) :
    ∃ front middle back, pattern.toList = front ++ (middle ++ back) ∧ front.length = x.start ∧
      front.length + middle.length = x.stop ∧
      (x.encloseIn pattern).toList = (front ++ "(?:".toList) ++ (middle ++ (")".toList ++ back)) := by
  have hlength := pattern.length_toList
  refine ⟨pattern.toList.take x.start, (pattern.toList.take x.stop).drop x.start, pattern.toList.drop x.stop, ?_, ?_, ?_, ?_⟩
  · rw [← drop_eq_append hx, List.take_append_drop]
  · rw [List.length_take]
    omega
  · rw [List.length_drop, List.length_take, List.length_take]
    omega
  · simp [Span.encloseIn]

/-- The text of what ends before the group. -/
theorem text_before (hx : x.start ≤ x.stop) (hpattern : x.stop ≤ pattern.length) (h : span.stop ≤ x.start) :
    span.text (x.encloseIn pattern).toList.toArray = span.text pattern.toList.toArray := by
  obtain ⟨front, middle, back, hparts, hfront, -, hparts'⟩ := exists_parts hx hpattern
  have hstop : span.stop ≤ front.length := hfront ▸ h
  have h₁ := text_middle [] front (middle ++ back) hstop
  have h₂ := text_middle [] front ("(?:".toList ++ (middle ++ (")".toList ++ back))) hstop
  rw [hparts, hparts', List.append_assoc]
  exact h₂.trans h₁.symm

/-- A span behind some characters. -/
theorem exists_move {d : Nat} (hstart : d ≤ span.start) (hspan : span.start ≤ span.stop) :
    ∃ base : Span, span = base.move d ∧ base.stop + d = span.stop :=
  ⟨⟨span.start - d, span.stop - d⟩, by rw [Span.move, Nat.sub_add_cancel hstart, Nat.sub_add_cancel (by omega)],
    Nat.sub_add_cancel (by omega)⟩

theorem move_move (d e : Nat) (span : Span) : (span.move d).move e = span.move (d + e) := by
  rw [Span.move, Span.move, Span.move, Nat.add_assoc, Nat.add_assoc]

/-- The text of what stands in the group. -/
theorem text_inside (hx : x.start ≤ x.stop) (hpattern : x.stop ≤ pattern.length) (hstart : x.start ≤ span.start)
    (hspan : span.start ≤ span.stop) (hstop : span.stop ≤ x.stop) :
    (span.move 3).text (x.encloseIn pattern).toList.toArray = span.text pattern.toList.toArray := by
  obtain ⟨front, middle, back, hparts, hfront, hmiddle, hparts'⟩ := exists_parts hx hpattern
  obtain ⟨base, rfl, hbase⟩ := exists_move (hfront ▸ hstart) hspan
  have hstop : base.stop ≤ middle.length := by omega
  have h₁ := text_middle front middle back hstop
  have h₂ := text_middle (front ++ "(?:".toList) middle (")".toList ++ back) hstop
  rw [List.length_append] at h₂
  rw [hparts, hparts', move_move]
  exact h₂.trans h₁.symm

/-- The text of what stands behind the group. -/
theorem text_behind (hx : x.start ≤ x.stop) (hstart : x.stop ≤ span.start) (hspan : span.start ≤ span.stop)
    (hstop : span.stop ≤ pattern.length) :
    (span.move 4).text (x.encloseIn pattern).toList.toArray = span.text pattern.toList.toArray := by
  obtain ⟨front, middle, back, hparts, hfront, hmiddle, hparts'⟩ := @exists_parts x pattern hx (by omega)
  obtain ⟨base, rfl, hbase⟩ := exists_move (hmiddle ▸ hstart) hspan
  have hlength := congrArg List.length hparts
  simp only [String.length_toList, List.length_append] at hlength
  have hstop : base.stop ≤ back.length := by omega
  have hwhole : pattern.toList = (front ++ middle) ++ (back ++ []) := by simp [hparts]
  have hwhole' : (x.encloseIn pattern).toList = ((front ++ "(?:".toList) ++ (middle ++ ")".toList)) ++ (back ++ []) := by
    simp [hparts']
  have hmove : ((front ++ "(?:".toList) ++ (middle ++ ")".toList)).length = (front ++ middle).length + 4 := by
    have hopen : "(?:".toList.length = 3 := rfl
    have hclose : ")".toList.length = 1 := rfl
    simp only [List.length_append]
    omega
  have h₁ := text_middle (front ++ middle) back [] hstop
  have h₂ := text_middle ((front ++ "(?:".toList) ++ (middle ++ ")".toList)) back [] hstop
  rw [hwhole, hwhole', move_move, ← List.length_append, h₁, ← hmove, h₂]

/-! ### Pieces -/

section Pieces

variable {chars chars' : Array Char} {n n' : Ast}

/-- Two nodes, each of its own text, go into the same pieces. -/
structure SameOutline (chars chars' : Array Char) (n n' : Ast) : Prop where
  piece : n'.piece chars' = n.piece chars
  branch : n'.branch chars' = n.branch chars
  alternatives : n'.alternatives chars' = n.alternatives chars

theorem sameOutline_of_isItem (hn : n.isItem = true) (hn' : n'.isItem = true) (h : n'.piece chars' = n.piece chars) :
    SameOutline chars chars' n n' := by
  have hbranch : n'.branch chars' = n.branch chars := by
    rw [Ast.branch_of_isItem _ hn, Ast.branch_of_isItem _ hn', h]
  refine ⟨h, hbranch, ?_⟩
  rw [Ast.alternatives_of_isAlternation_eq_false _ (Ast.isAlternation_of_isItem hn),
    Ast.alternatives_of_isAlternation_eq_false _ (Ast.isAlternation_of_isItem hn'), hbranch]

variable {place : Span → Span} {change : Ast → Ast → Ast}

/-- A node whose spans have the same texts elsewhere, and that is not changed, goes into the same pieces there. -/
theorem outline_rebuild (n : Ast) (htext : ∀ k, n.Has k → (place k.span).text chars' = k.span.text chars)
    (hchange : ∀ k, n.Has k → ∀ n', change k n' = n') : SameOutline chars chars' n (n.rebuild place change) := by
  induction n using Ast.induction with
  | leaf n hn =>
      have hself := htext n (.self n)
      cases n with
      | empty =>
          rw [Ast.span] at hself
          refine ⟨?_, ?_, ?_⟩
          · rw [Ast.rebuild, Ast.piece, Ast.piece, hself]
          · rw [Ast.rebuild, Ast.branch_empty, Ast.branch_empty]
          · rw [Ast.rebuild, Ast.alternatives_of_isAlternation_eq_false _ rfl,
              Ast.alternatives_of_isAlternation_eq_false _ rfl, Ast.branch_empty, Ast.branch_empty]
      | flags =>
          rw [Ast.span] at hself
          exact sameOutline_of_isItem rfl rfl (by rw [Ast.rebuild, Ast.piece, Ast.piece, hself])
      | repetition => cases hn
      | group => cases hn
      | alternation => cases hn
      | concat => cases hn
      | _ =>
          rw [Ast.span] at hself
          rw [Ast.rebuild, hchange _ (.self _)]
          exact sameOutline_of_isItem rfl rfl (by rw [Ast.piece, Ast.piece, hself])
  | repetition span kind operand ih =>
      have hself : (place span).text chars' = span.text chars := htext _ (.self _)
      have hoperand := ih (fun k hk => htext k (.operand hk)) fun k hk => hchange k (.operand hk)
      rw [Ast.rebuild, hchange _ (.self _)]
      exact sameOutline_of_isItem rfl rfl (by rw [Ast.piece, Ast.piece, hoperand.piece, hself])
  | group span captures changes body ih =>
      have hself : (place span).text chars' = span.text chars := htext _ (.self _)
      have hbody := ih (fun k hk => htext k (.body hk)) fun k hk => hchange k (.body hk)
      rw [Ast.rebuild, hchange _ (.self _)]
      exact sameOutline_of_isItem rfl rfl (by rw [Ast.piece, Ast.piece, hbody.alternatives, hself])
  | alternation span asts ih =>
      have hself : (place span).text chars' = span.text chars := htext _ (.self _)
      have hbranches : (asts.map (Ast.rebuild place change)).map (Ast.branch chars') = asts.map (Ast.branch chars) := by
        rw [List.map_map]
        exact List.map_congr_left fun n hn =>
          (ih n hn (fun k hk => htext k (.alternative hn hk)) fun k hk => hchange k (.alternative hn hk)).branch
      have hpiece : ((Ast.alternation span asts).rebuild place change).piece chars' =
          (Ast.alternation span asts).piece chars := by
        rw [Ast.rebuild_alternation, Ast.piece, Ast.piece, hbranches, hself]
      refine ⟨hpiece, ?_, ?_⟩
      · rw [Ast.rebuild_alternation] at hpiece ⊢
        rw [Ast.branch_alternation, Ast.branch_alternation, hpiece]
      · rw [Ast.rebuild_alternation, Ast.alternatives, Ast.alternatives, hbranches]
  | concat span asts ih =>
      have hself : (place span).text chars' = span.text chars := htext _ (.self _)
      have hmembers : (asts.map (Ast.rebuild place change)).flatMap (Ast.branch chars') =
          asts.flatMap (Ast.branch chars) := by
        rw [List.flatMap_map]
        exact List.flatMap_congr fun n hn =>
          (ih n hn (fun k hk => htext k (.member hn hk)) fun k hk => hchange k (.member hn hk)).branch
      have hbranch : ((Ast.concat span asts).rebuild place change).branch chars' = (Ast.concat span asts).branch chars := by
        rw [Ast.rebuild_concat, Ast.branch, Ast.branch, hmembers]
      refine ⟨?_, hbranch, ?_⟩
      · rw [Ast.rebuild_concat, Ast.piece, Ast.piece, hmembers, hself]
      · rw [Ast.rebuild_concat] at hbranch ⊢
        rw [Ast.alternatives_of_isAlternation_eq_false _ rfl, Ast.alternatives_of_isAlternation_eq_false _ rfl, hbranch]

end Pieces

variable {n : Ast}

/-- In its group a node has the same piece. -/
theorem piece_move (hx : x.start ≤ x.stop) (hpattern : x.stop ≤ pattern.length) (hformed : ∀ k, n.Has k → k.Formed)
    (hstart : x.start ≤ n.span.start) (hstop : n.span.stop ≤ x.stop) :
    (n.move 3).piece (x.encloseIn pattern).toList.toArray = n.piece pattern.toList.toArray := by
  refine (outline_rebuild n (fun k hk => ?_) fun _ _ _ => rfl).piece
  obtain ⟨hlower, hupper⟩ := hk.bounds hformed
  exact text_inside hx hpattern (by omega) (hformed k hk).1 (by omega)

/-- Before the group a node has the same piece. -/
theorem piece_before (hx : x.start < x.stop) (hpattern : x.stop ≤ pattern.length) (hformed : ∀ k, n.Has k → k.Formed)
    (hstop : n.span.stop ≤ x.start) :
    (n.enclose x).piece (x.encloseIn pattern).toList.toArray = n.piece pattern.toList.toArray := by
  refine (outline_rebuild n (fun k hk => ?_) fun k hk n' => if_neg fun heq => ?_).piece
  · obtain ⟨-, hupper⟩ := hk.bounds hformed
    have hbefore : k.span.stop ≤ x.start := by omega
    have hstretch : x.stretch k.span = k.span := stretch_before (hformed k hk).1 hbefore
    rw [hstretch]
    exact text_before (Nat.le_of_lt hx) hpattern hbefore
  · obtain ⟨-, hupper⟩ := hk.bounds hformed
    rw [heq] at hupper
    omega

/-- Behind the group a node has the same piece. -/
theorem piece_behind (hx : x.start < x.stop) (hformed : ∀ k, n.Has k → k.Formed) (hstart : x.stop ≤ n.span.start)
    (hstop : n.span.stop ≤ pattern.length) :
    (n.enclose x).piece (x.encloseIn pattern).toList.toArray = n.piece pattern.toList.toArray := by
  refine (outline_rebuild n (fun k hk => ?_) fun k hk n' => if_neg fun heq => ?_).piece
  · obtain ⟨hlower, hupper⟩ := hk.bounds hformed
    have hspan := (hformed k hk).1
    have hbehind : x.stop ≤ k.span.start := by omega
    have hstretch : x.stretch k.span = k.span.move 4 := stretch_behind (Nat.lt_of_lt_of_le hx hbehind) hspan
    rw [hstretch]
    exact text_behind (Nat.le_of_lt hx) hbehind hspan (by omega)
  · obtain ⟨hlower, -⟩ := hk.bounds hformed
    rw [heq] at hlower
    omega

/-! ### Expressions -/

section Expressions

variable {place : Span → Span} {change : Ast → Ast → Ast}

theorem exprs?_map {f : Ast → Ast} {asts : List Ast} (h : ∀ n ∈ asts, ∀ m, (f n).expr? m = n.expr? m) (m : Mode) :
    Ast.exprs? m (asts.map f) = Ast.exprs? m asts := by
  induction asts generalizing m with
  | nil => rfl
  | cons n asts ih =>
      have hlater := ih fun k hk => h k (List.mem_cons_of_mem n hk)
      rw [List.map_cons, Ast.exprs?, Ast.exprs?, h n List.mem_cons_self]
      simp only [hlater]

/-- What a node matches does not depend on where it stands. -/
theorem expr?_rebuild (n : Ast) (hchange : ∀ k, n.Has k → k.isItem = true → k.mayRepeat = true →
    ∀ n' : Ast, (∀ m, n'.expr? m = k.expr? m) → ∀ m, (change k n').expr? m = k.expr? m) (m : Mode) :
    (n.rebuild place change).expr? m = n.expr? m := by
  induction n using Ast.induction generalizing m with
  | leaf n hn =>
      cases n with
      | empty => rfl
      | flags => rfl
      | repetition => cases hn
      | group => cases hn
      | alternation => cases hn
      | concat => cases hn
      | _ =>
          refine hchange _ (.self _) rfl rfl _ ?_ m
          exact fun _ => rfl
  | repetition span kind operand ih =>
      have hoperand (m : Mode) := ih (fun k hk => hchange k (.operand hk)) m
      exact hchange _ (.self _) rfl rfl _ (fun m => by rw [Ast.expr?, Ast.expr?, hoperand m]) m
  | group span captures changes body ih =>
      have hbody (m : Mode) := ih (fun k hk => hchange k (.body hk)) m
      exact hchange _ (.self _) rfl rfl _ (fun m => by rw [Ast.expr?, Ast.expr?, hbody]) m
  | alternation span asts ih =>
      rw [Ast.rebuild_alternation, Ast.expr?, Ast.expr?, exprs?_map fun n hn m => ?_]
      exact ih n hn (fun k hk => hchange k (.alternative hn hk)) m
  | concat span asts ih =>
      rw [Ast.rebuild_concat, Ast.expr?, Ast.expr?, exprs?_map fun n hn m => ?_]
      exact ih n hn (fun k hk => hchange k (.member hn hk)) m

end Expressions

theorem expr?_move (d : Nat) (n : Ast) (m : Mode) : (n.move d).expr? m = n.expr? m :=
  expr?_rebuild n (fun _ _ _ _ _ h => h) m

/-- Only directives change the flags behind them. -/
theorem eq_of_expr? : ∀ n : Ast, (∀ k, n.Has k → k.Formed) → n.isItem = true → n.mayRepeat = true →
    ∀ {m m' : Mode} {e : Expr}, n.expr? m = some (e, m') → m' = m
  | .literal _ _, _, _, _, m, m', e, h => by
      simp only [Ast.expr?, bind, Option.bind_eq_some_iff, pure, Option.some.injEq, Prod.mk.injEq] at h
      obtain ⟨-, -, -, rfl⟩ := h
      rfl
  | .dot _, _, _, _, m, m', e, h => by
      simp only [Ast.expr?, bind, Option.bind_eq_some_iff, pure, Option.some.injEq, Prod.mk.injEq] at h
      obtain ⟨-, -, -, rfl⟩ := h
      rfl
  | .assertion _ _, _, _, _, m, m', e, h => (Prod.mk.inj (Option.some.inj h)).2.symm
  | .charClass _ _, _, _, _, m, m', e, h => by
      simp only [Ast.expr?, bind, Option.bind_eq_some_iff, pure, Option.some.injEq, Prod.mk.injEq] at h
      obtain ⟨-, -, -, rfl⟩ := h
      rfl
  | .repetition span kind operand, hformed, _, _, m, m', e, h => by
      obtain ⟨-, hitem, hrepeat, -⟩ := hformed _ (.self _)
      simp only [Ast.expr?, bind, Option.bind_eq_some_iff, pure, Option.some.injEq, Prod.mk.injEq, Prod.exists] at h
      obtain ⟨e', m'', hoperand, -, rfl⟩ := h
      exact eq_of_expr? operand (fun k hk => hformed k (.operand hk)) hitem hrepeat hoperand
  | .group _ _ _ _, _, _, _, m, m', e, h => by
      simp only [Ast.expr?, bind, Option.bind_eq_some_iff, pure, Option.some.injEq, Prod.mk.injEq, Prod.exists] at h
      obtain ⟨-, -, -, -, rfl⟩ := h
      rfl

theorem expr?_around (hformed : ∀ k, n.Has k → k.Formed) (hitem : n.isItem = true) (hrepeat : n.mayRepeat = true)
    (m : Mode) : n.around.expr? m = n.expr? m := by
  have hmode : m.apply [] = m := rfl
  rw [Ast.around, Ast.expr?, hmode, expr?_move]
  cases he : n.expr? m with
  | none => rfl
  | some read =>
      obtain ⟨e, m'⟩ := read
      obtain rfl := eq_of_expr? n hformed hitem hrepeat he
      rfl

/-- **A group around a node does not change what the pattern matches.** -/
theorem Ast.expr?_enclose (hformed : ∀ k, n.Has k → k.Formed) : (n.enclose x).wholeExpr? = n.wholeExpr? := by
  rw [Ast.wholeExpr?, Ast.wholeExpr?, Ast.enclose, expr?_rebuild n fun k hk hitem hrepeat n' hn' m => ?_]
  split
  · exact expr?_around (fun j hj => hformed j (hk.trans hj)) hitem hrepeat m
  · exact hn' m

end Attest.Regex

import Attest.Proofs.Regex.Locality.Reading

/-!
Where the nodes of a tree stand in the text. The spans of the nodes of an alternative, and of one alternative after the
other, follow each other, and those inside a group or under a quantifier lie inside its span (`Formed`). And a node that
will be in the tree but has not been read yet either begins further on, or it puts the last node under a
quantifier (`Reads.comes`). Of what is read, only concatenations, alternations and empty nodes are not put down when they
have been read, but when what they consist of is complete; the nodes looked for are others (`isItem`).
-/

namespace Attest.Regex

open Scanner

namespace Ast

/-- A node and the nodes that it consists of. -/
inductive Has : Ast → Ast → Prop
  | self (n : Ast) : n.Has n
  | operand {span : Span} {kind : RepetitionKind} {operand m : Ast} (h : operand.Has m) :
      (Ast.repetition span kind operand).Has m
  | body {span : Span} {captures : Bool} {changes : FlagChanges} {body m : Ast} (h : body.Has m) :
      (Ast.group span captures changes body).Has m
  | alternative {span : Span} {asts : List Ast} {n m : Ast} (hn : n ∈ asts) (h : n.Has m) : (Ast.alternation span asts).Has m
  | member {span : Span} {asts : List Ast} {n m : Ast} (hn : n ∈ asts) (h : n.Has m) : (Ast.concat span asts).Has m

/-- What stands in an alternative. -/
def isItem : Ast → Bool
  | .empty _ => false
  | .alternation .. => false
  | .concat .. => false
  | _ => true

def isAlternation : Ast → Bool
  | .alternation .. => true
  | _ => false

def isRepetition : Ast → Bool
  | .repetition .. => true
  | _ => false

/-- Nothing stands in it. -/
def isLeaf : Ast → Bool
  | .repetition .. => false
  | .group .. => false
  | .alternation .. => false
  | .concat .. => false
  | _ => true

/-- What holds of every leaf and goes from the parts of a node to the node holds of every tree. -/
@[elab_as_elim]
theorem induction {motive : Ast → Prop} (leaf : ∀ n, n.isLeaf = true → motive n)
    (repetition : ∀ span kind operand, motive operand → motive (.repetition span kind operand))
    (group : ∀ span captures changes body, motive body → motive (.group span captures changes body))
    (alternation : ∀ span asts, (∀ n ∈ asts, motive n) → motive (.alternation span asts))
    (concat : ∀ span asts, (∀ n ∈ asts, motive n) → motive (.concat span asts)) : ∀ n, motive n
  | .repetition span kind operand => repetition span kind operand (induction leaf repetition group alternation concat operand)
  | .group span captures changes body =>
      group span captures changes body (induction leaf repetition group alternation concat body)
  | .alternation span asts =>
      alternation span asts fun n _ => induction leaf repetition group alternation concat n
  | .concat span asts => concat span asts fun n _ => induction leaf repetition group alternation concat n
  | .empty span => leaf (.empty span) rfl
  | .flags span changes => leaf (.flags span changes) rfl
  | .literal span l => leaf (.literal span l) rfl
  | .dot span => leaf (.dot span) rfl
  | .assertion span kind => leaf (.assertion span kind) rfl
  | .charClass span body => leaf (.charClass span body) rfl

end Ast

/-- One of several nodes has it. -/
def Holds (ns : List Ast) (m : Ast) : Prop :=
  ∃ n ∈ ns, n.Has m

/-- Nodes one after the other between two places. -/
structure Row (lo hi : Nat) (ns : List Ast) : Prop where
  lower : ∀ n ∈ ns, lo ≤ n.span.start
  upper : ∀ n ∈ ns, n.span.stop ≤ hi
  pairwise : ns.Pairwise fun m n => m.span.stop ≤ n.span.start

/-- A node takes characters unless it only joins others, and those that it consists of stand inside it; it joins what the
reader joins in such a node. -/
def Ast.Formed (n : Ast) : Prop :=
  n.span.start ≤ n.span.stop ∧ match n with
    | .empty _ => True
    | .repetition span _ operand => operand.isItem = true ∧ operand.mayRepeat = true ∧
        operand.span.start = span.start ∧ operand.span.stop < span.stop
    | .group span _ _ body => span.start < body.span.start ∧ body.span.stop < span.stop
    | .alternation span asts => Row span.start span.stop asts ∧ ∀ n ∈ asts, n.isAlternation = false
    | .concat span asts => Row span.start span.stop asts ∧ ∀ n ∈ asts, n.isItem = true
    | n => n.span.start < n.span.stop

/-- Nodes one after the other, well formed with all that they consist of. -/
structure InOrder (lo hi : Nat) (ns : List Ast) : Prop where
  row : Row lo hi ns
  formed : ∀ m, Holds ns m → m.Formed

variable {lo hi : Nat} {ns : List Ast} {n m : Ast}

namespace Ast

theorem Has.trans {k : Ast} (h : n.Has m) (h' : m.Has k) : n.Has k := by
  induction h with
  | self => exact h'
  | operand _ ih => exact .operand (ih h')
  | body _ ih => exact .body (ih h')
  | alternative hn _ ih => exact .alternative hn (ih h')
  | member hn _ ih => exact .member hn (ih h')

theorem eq_of_isLeaf (hn : n.isLeaf = true) (h : n.Has m) : m = n := by
  cases h with
  | self => rfl
  | _ => cases hn

/-- Only an empty node is a leaf and does not stand in an alternative. -/
theorem isItem_or_eq_empty (hn : n.isLeaf = true) : n.isItem = true ∨ ∃ span, n = .empty span := by
  cases n with
  | empty span => exact .inr ⟨span, rfl⟩
  | repetition => cases hn
  | group => cases hn
  | alternation => cases hn
  | concat => cases hn
  | _ => exact .inl rfl

theorem formed_of_isLeaf (hn : n.isLeaf = true) (h : n.span.start < n.span.stop) : n.Formed := by
  refine ⟨Nat.le_of_lt h, ?_⟩
  cases n with
  | empty => trivial
  | repetition => cases hn
  | group => cases hn
  | alternation => cases hn
  | concat => cases hn
  | _ => exact h

/-- What stands in an alternative takes characters. -/
theorem lt_of_isItem (hformed : ∀ k, n.Has k → k.Formed) (hn : n.isItem = true) : n.span.start < n.span.stop := by
  have hself := (hformed n (.self n)).2
  cases n with
  | empty => cases hn
  | alternation => cases hn
  | concat => cases hn
  | repetition span kind operand =>
      obtain ⟨-, -, hstart, hstop⟩ := hself
      have hoperand := (hformed operand (.operand (.self _))).1
      exact show span.start < span.stop by omega
  | group span captures changes body =>
      have hbody := (hformed body (.body (.self _))).1
      exact show span.start < span.stop by omega
  | _ => exact hself

@[simp] theorem span_ast (a : Atom) (span : Span) : (a.ast span).span = span := by
  cases a <;> rfl

@[simp] theorem isLeaf_ast (a : Atom) (span : Span) : (a.ast span).isLeaf = true := by
  cases a <;> rfl

@[simp] theorem isItem_ast (a : Atom) (span : Span) : (a.ast span).isItem = true := by
  cases a <;> rfl

end Ast

theorem holds_append {ms : List Ast} {k : Ast} : Holds (ns ++ ms) k ↔ Holds ns k ∨ Holds ms k := by
  simp [Holds, or_and_right, exists_or]

theorem holds_singleton {k : Ast} : Holds [n] k ↔ n.Has k := by
  simp [Holds]

theorem not_holds_nil : ¬Holds [] m := by
  simp [Holds]

/-! ### What has been read so far -/

/-- Joining adds no other nodes than those that join. -/
theorem has_ofConcat (hm : m.isItem = true) (span : Span) : (Ast.ofConcat span ns).Has m ↔ Holds ns m := by
  match ns with
  | [] =>
      refine iff_of_false (fun h => ?_) not_holds_nil
      cases h
      cases hm
  | [n] => exact holds_singleton.symm
  | a :: b :: ns =>
      constructor
      · intro h
        cases h with
        | self => cases hm
        | member hn h => exact ⟨_, hn, h⟩
      · rintro ⟨n, hn, h⟩
        exact .member hn h

theorem has_ofAlternation (hm : m.isItem = true) (span : Span) : (Ast.ofAlternation span ns).Has m ↔ Holds ns m := by
  match ns with
  | [] =>
      refine iff_of_false (fun h => ?_) not_holds_nil
      cases h
      cases hm
  | [n] => exact holds_singleton.symm
  | a :: b :: ns =>
      constructor
      · intro h
        cases h with
        | self => cases hm
        | alternative hn h => exact ⟨_, hn, h⟩
      · rintro ⟨n, hn, h⟩
        exact .alternative hn h

namespace Pending

variable {p : Pending}

/-- The complete alternatives and the nodes of the current one, from left to right. -/
def soFar (p : Pending) : List Ast :=
  p.done.reverse ++ p.items.reverse

theorem holds_push : Holds (p.push n).soFar m ↔ Holds p.soFar m ∨ n.Has m := by
  simp [soFar, push, holds_append, holds_singleton, or_assoc]

theorem holds_bar (hm : m.isItem = true) (place : Nat) : Holds (p.bar place).soFar m ↔ Holds p.soFar m := by
  simp [soFar, bar, concat, holds_append, holds_singleton, has_ofConcat hm]

theorem has_close (hm : m.isItem = true) (stop : Nat) : (p.close stop).Has m ↔ Holds p.soFar m := by
  simp [soFar, close, concat, has_ofAlternation hm, holds_append, holds_singleton, has_ofConcat hm]

theorem not_holds_begin (place : Nat) : ¬Holds (begin place).soFar m :=
  not_holds_nil

end Pending

variable {p p' : Pending} {i j : Nat} {token : Token} {s t : Scanner} {ast : Ast}

/-- The ways to put down a token: it ends an alternative, it is a node, or it is a quantifier of the last node. -/
theorem Token.put_cases (h : token.put ⟨i, j⟩ p = some p') :
    p' = p.bar i ∨
    (∃ n, n.span = ⟨i, j⟩ ∧ n.isLeaf = true ∧ n.isItem = true ∧
      (n.mayRepeat = true → ∃ a, token = .atom a ∧ n = a.ast ⟨i, j⟩) ∧ p' = p.push n) ∨
    ∃ kind q n, token = .quantifier kind ∧ p = Pending.push q n ∧ n.mayRepeat = true ∧
      p' = q.push (.repetition ⟨n.span.start, j⟩ kind n) := by
  cases token with
  | stop => cases h
  | bar => exact .inl (Option.some.inj h).symm
  | atom a =>
      exact .inr (.inl ⟨_, Ast.span_ast a _, Ast.isLeaf_ast a _, Ast.isItem_ast a _, fun _ => ⟨a, rfl, rfl⟩,
        (Option.some.inj h).symm⟩)
  | opening opening =>
      cases opening with
      | group => cases h
      | directive changes =>
          exact .inr (.inl ⟨_, rfl, rfl, rfl, fun hn => Bool.noConfusion hn, (Option.some.inj h).symm⟩)
  | quantifier kind =>
      obtain ⟨q, n, rfl, hn, rfl⟩ := Pending.quantify_eq_some_iff.1 h
      exact .inr (.inr ⟨kind, q, n, rfl, rfl, hn, rfl⟩)

/-! ### Order -/

theorem Row.mono {lo' hi' : Nat} (h : Row lo hi ns) (hlo : lo' ≤ lo) (hhi : hi ≤ hi') : Row lo' hi' ns :=
  ⟨fun n hn => Nat.le_trans hlo (h.lower n hn), fun n hn => Nat.le_trans (h.upper n hn) hhi, h.pairwise⟩

theorem row_append {ms : List Ast} {mid : Nat} (h : Row lo mid ns) (h' : Row mid hi ms) (hlo : lo ≤ mid) (hhi : mid ≤ hi) :
    Row lo hi (ns ++ ms) where
  lower n hn := (List.mem_append.1 hn).elim (h.lower n) fun hn => Nat.le_trans hlo (h'.lower n hn)
  upper n hn := (List.mem_append.1 hn).elim (fun hn => Nat.le_trans (h.upper n hn) hhi) (h'.upper n)
  pairwise := List.pairwise_append.2 ⟨h.pairwise, h'.pairwise, fun m hm n hn =>
    Nat.le_trans (h.upper m hm) (h'.lower n hn)⟩

theorem row_singleton (hlo : lo ≤ n.span.start) (hhi : n.span.stop ≤ hi) : Row lo hi [n] := by
  constructor <;> simp [hlo, hhi]

namespace InOrder

theorem nil (lo hi : Nat) : InOrder lo hi [] :=
  ⟨by constructor <;> simp, fun _ hk => absurd hk not_holds_nil⟩

theorem mono {lo' hi' : Nat} (h : InOrder lo hi ns) (hlo : lo' ≤ lo) (hhi : hi ≤ hi') : InOrder lo' hi' ns :=
  ⟨h.row.mono hlo hhi, h.formed⟩

theorem singleton (hlo : lo ≤ n.span.start) (hhi : n.span.stop ≤ hi) (hn : ∀ k, n.Has k → k.Formed) : InOrder lo hi [n] :=
  ⟨row_singleton hlo hhi, fun k hk => hn k (holds_singleton.1 hk)⟩

theorem append {mid : Nat} {ms : List Ast} (h : InOrder lo mid ns) (h' : InOrder mid hi ms) (hlo : lo ≤ mid)
    (hhi : mid ≤ hi) : InOrder lo hi (ns ++ ms) where
  row := row_append h.row h'.row hlo hhi
  formed k hk := (holds_append.1 hk).elim (h.formed k) (h'.formed k)

theorem of_has (h : InOrder lo hi [n]) : ∀ k, n.Has k → k.Formed :=
  fun k hk => h.formed k (holds_singleton.2 hk)

/-- The last node put under a quantifier. -/
theorem quantify (h : InOrder lo hi (ns ++ [n])) (hitem : n.isItem = true) (hn : n.mayRepeat = true) {q : Nat} (hq : hi < q)
    (kind : RepetitionKind) : InOrder lo q (ns ++ [.repetition ⟨n.span.start, q⟩ kind n]) := by
  obtain ⟨⟨hlower, hupper, hpairwise⟩, hformed⟩ := h
  obtain ⟨hfront, -, hlast⟩ := List.pairwise_append.1 hpairwise
  have hspan := (hformed n (holds_append.2 (.inr (holds_singleton.2 (.self n))))).1
  have hstop := hupper n (by simp)
  refine ⟨⟨?_, ?_, List.pairwise_append.2 ⟨hfront, List.pairwise_singleton _ _, ?_⟩⟩, fun k hk => ?_⟩
  · simpa [Ast.span, or_imp, forall_and] using hlower
  · have hfront (m : Ast) (hm : m ∈ ns) : m.span.stop ≤ q := by
      have := hupper m (List.mem_append_left _ hm)
      omega
    simpa [Ast.span, or_imp, forall_and] using hfront
  · simpa [Ast.span] using hlast
  · rw [holds_append, holds_singleton] at hk
    rcases hk with hk | hk
    · exact hformed k (holds_append.2 (.inl hk))
    · cases hk with
      | self => exact ⟨show n.span.start ≤ q by omega, hitem, hn, rfl, show n.span.stop < q by omega⟩
      | operand hk => exact hformed k (holds_append.2 (.inr (holds_singleton.2 hk)))

/-- What stands in an alternative, joined. -/
theorem ofConcat (h : InOrder lo hi ns) (hle : lo ≤ hi) (hitem : ∀ n ∈ ns, n.isItem = true) :
    InOrder lo hi [.ofConcat ⟨lo, hi⟩ ns] ∧ (Ast.ofConcat ⟨lo, hi⟩ ns).isAlternation = false := by
  match ns, h, hitem with
  | [], _, _ =>
      refine ⟨.singleton (Nat.le_refl _) (Nat.le_refl _) fun k hk => ?_, rfl⟩
      obtain rfl := Ast.eq_of_isLeaf rfl hk
      exact ⟨hle, trivial⟩
  | [n], h, hitem =>
      have hn := hitem n List.mem_cons_self
      exact ⟨h, by cases n <;> first | rfl | cases hn⟩
  | a :: b :: ns, h, hitem =>
      refine ⟨.singleton (Nat.le_refl _) (Nat.le_refl _) fun k hk => ?_, rfl⟩
      cases hk with
      | self => exact ⟨hle, h.row, hitem⟩
      | member hn hk => exact h.formed k ⟨_, hn, hk⟩

/-- Alternatives, joined. -/
theorem ofAlternation (h : InOrder lo hi ns) (hle : lo ≤ hi) (halternative : ∀ n ∈ ns, n.isAlternation = false) :
    InOrder lo hi [.ofAlternation ⟨lo, hi⟩ ns] := by
  match ns, h, halternative with
  | [], _, _ =>
      refine .singleton (Nat.le_refl _) (Nat.le_refl _) fun k hk => ?_
      obtain rfl := Ast.eq_of_isLeaf rfl hk
      exact ⟨hle, trivial⟩
  | [n], h, _ => exact h
  | a :: b :: ns, h, halternative =>
      refine .singleton (Nat.le_refl _) (Nat.le_refl _) fun k hk => ?_
      cases hk with
      | self => exact ⟨hle, h.row, halternative⟩
      | alternative hn hk => exact h.formed k ⟨_, hn, hk⟩

end InOrder

/-- What has been read up to a place. -/
structure Pending.InOrder (p : Pending) (place : Nat) : Prop where
  start_le : p.start ≤ p.since
  since_le : p.since ≤ place
  done : Regex.InOrder p.start p.since p.done.reverse
  items : Regex.InOrder p.since place p.items.reverse
  isAlternation : ∀ n ∈ p.done, n.isAlternation = false
  isItem : ∀ n ∈ p.items, n.isItem = true

namespace Pending.InOrder

variable {place : Nat}

theorem begin (place : Nat) : (begin place).InOrder place where
  start_le := Nat.le_refl _
  since_le := Nat.le_refl _
  done := .nil _ _
  items := .nil _ _
  isAlternation _ hn := absurd hn List.not_mem_nil
  isItem _ hn := absurd hn List.not_mem_nil

theorem concat (h : p.InOrder place) {stop : Nat} (hstop : place ≤ stop) :
    Regex.InOrder p.since stop [p.concat stop] ∧ (p.concat stop).isAlternation = false :=
  (h.items.mono (Nat.le_refl _) hstop).ofConcat (Nat.le_trans h.since_le hstop) fun n hn =>
    h.isItem n (List.mem_reverse.1 hn)

theorem done_concat (h : p.InOrder place) {stop : Nat} (hstop : place ≤ stop) :
    Regex.InOrder p.start stop (p.concat stop :: p.done).reverse ∧
      ∀ n ∈ p.concat stop :: p.done, n.isAlternation = false := by
  obtain ⟨hconcat, halternation⟩ := h.concat hstop
  rw [List.reverse_cons]
  exact ⟨h.done.append hconcat h.start_le (Nat.le_trans h.since_le hstop),
    List.forall_mem_cons.2 ⟨halternation, h.isAlternation⟩⟩

theorem bar (h : p.InOrder place) {stop : Nat} (hstop : place ≤ stop) : (p.bar stop).InOrder (stop + 1) where
  start_le := Nat.le_succ_of_le (Nat.le_trans h.start_le (Nat.le_trans h.since_le hstop))
  since_le := Nat.le_refl _
  done := (h.done_concat hstop).1.mono (Nat.le_refl _) (Nat.le_succ _)
  items := .nil _ _
  isAlternation := (h.done_concat hstop).2
  isItem _ hn := absurd hn List.not_mem_nil

theorem mono (h : p.InOrder place) {stop : Nat} (hstop : place ≤ stop) : p.InOrder stop :=
  { h with since_le := Nat.le_trans h.since_le hstop, items := h.items.mono (Nat.le_refl _) hstop }

theorem push (h : p.InOrder place) (hn : Regex.InOrder place j [n]) (hplace : place ≤ j) (hitem : n.isItem = true) :
    (p.push n).InOrder j where
  start_le := h.start_le
  since_le := Nat.le_trans h.since_le hplace
  done := h.done
  items := by
    rw [Pending.push, List.reverse_cons]
    exact h.items.append hn h.since_le hplace
  isAlternation := h.isAlternation
  isItem := List.forall_mem_cons.2 ⟨hitem, h.isItem⟩

theorem quantify (h : (p.push n).InOrder place) (hn : n.mayRepeat = true) (hplace : place < j) (kind : RepetitionKind) :
    (p.push (.repetition ⟨n.span.start, j⟩ kind n)).InOrder j where
  start_le := h.start_le
  since_le := Nat.le_trans h.since_le (Nat.le_of_lt hplace)
  done := h.done
  items := by
    have hitems := h.items
    rw [Pending.push, List.reverse_cons] at hitems ⊢
    exact hitems.quantify (h.isItem n List.mem_cons_self) hn hplace kind
  isAlternation := h.isAlternation
  isItem := List.forall_mem_cons.2 ⟨rfl, (List.forall_mem_cons.1 h.isItem).2⟩

theorem close (h : p.InOrder place) {stop : Nat} (hstop : place ≤ stop) : Regex.InOrder p.start stop [p.close stop] := by
  obtain ⟨horder, halternative⟩ := h.done_concat hstop
  exact horder.ofAlternation (Nat.le_trans h.start_le (Nat.le_trans h.since_le hstop)) fun n hn =>
    halternative n (List.mem_reverse.1 hn)

end Pending.InOrder

/-- What is put down keeps the order. -/
theorem Token.put_inOrder {r : Nat} (h : token.put ⟨i, j⟩ p = some p') (hr : r ≤ i) (hij : i < j) (horder : p.InOrder r) :
    p'.InOrder j ∧ p'.start = p.start := by
  obtain rfl | ⟨n, hspan, hleaf, hitem, -, rfl⟩ | ⟨kind, q, n, -, rfl, hn, rfl⟩ := put_cases h
  · exact ⟨(horder.bar hr).mono hij, rfl⟩
  · have hstart : n.span.start = i := by rw [hspan]
    have hstop : n.span.stop = j := by rw [hspan]
    refine ⟨horder.push (.singleton (by omega) (by omega) fun k hk => ?_) (by omega) hitem, rfl⟩
    obtain rfl := Ast.eq_of_isLeaf hleaf hk
    exact Ast.formed_of_isLeaf hleaf (by omega)
  · exact ⟨horder.quantify hn (by omega) kind, rfl⟩

/-- The nodes of a tree are in order. -/
theorem Reads.inOrder (h : Reads p s ast t) (horder : p.InOrder s.position) : InOrder p.start t.position [ast] := by
  induction h with
  | @stop p s t hread =>
      exact horder.close (Nat.le_trans s.reaches_skip.le (reaches_readToken hread).le)
  | @token p p' ast s t u token hread hput later ih =>
      obtain ⟨hle, hlt⟩ := token_bounds hread (Token.ne_stop_of_put hput)
      obtain ⟨horder', hstart⟩ := Token.put_inOrder hput hle hlt horder
      exact hstart ▸ ih horder'
  | @group p body ast s t u w captures changes hread inside hclose later ihInside ihLater =>
      obtain ⟨hle, hlt, htu, hclosed⟩ := group_bounds hread inside hclose
      have hbody : InOrder t.position u.position [body] := ihInside (.begin _)
      have hlower := hbody.row.lower body List.mem_cons_self
      have hupper := hbody.row.upper body List.mem_cons_self
      refine ihLater (horder.push (.singleton hle (Nat.le_refl _) fun k hk => ?_) (by omega) rfl)
      cases hk with
      | self =>
          have hspan : s.skip.position ≤ (leaveGroup s.skip u).position := by omega
          exact ⟨hspan, Nat.lt_of_lt_of_le hlt hlower, Nat.lt_of_le_of_lt hupper hclosed⟩
      | body hk => exact hbody.of_has k hk

/-- A tree that was read from a pattern ends where the pattern ends. -/
theorem Reads.position_eq {pattern : String} (h : Reads p (.ofString pattern) ast t) (hrest : t.rest = []) :
    t.position = pattern.length := by
  have hposition := h.precedes.position
  rw [hrest] at hposition
  simpa [Scanner.ofString, String.length_toList] using hposition

/-- The nodes of the tree of a pattern are in order. -/
theorem Ast.inOrder {pattern : String} (h : Ast.read? pattern = some ast) : InOrder 0 pattern.length [ast] := by
  obtain ⟨t, hreads, hrest, -⟩ := Ast.read?_eq_some_iff.1 h
  rw [← hreads.position_eq hrest]
  exact hreads.inOrder (.begin 0)

theorem Ast.Has.bounds (h : n.Has m) (hformed : ∀ k, n.Has k → k.Formed) :
    n.span.start ≤ m.span.start ∧ m.span.stop ≤ n.span.stop := by
  induction h with
  | self => exact ⟨Nat.le_refl _, Nat.le_refl _⟩
  | @operand span kind operand m h ih =>
      obtain ⟨hlower, hupper⟩ := ih fun k hk => hformed k (.operand hk)
      obtain ⟨-, -, -, hstart, hstop⟩ := hformed _ (.self _)
      exact ⟨show span.start ≤ _ by omega, show _ ≤ span.stop by omega⟩
  | @body span captures changes body m h ih =>
      obtain ⟨hlower, hupper⟩ := ih fun k hk => hformed k (.body hk)
      obtain ⟨-, hstart, hstop⟩ := hformed _ (.self _)
      exact ⟨show span.start ≤ _ by omega, show _ ≤ span.stop by omega⟩
  | @alternative span asts n m hn h ih =>
      obtain ⟨hlower, hupper⟩ := ih fun k hk => hformed k (.alternative hn hk)
      obtain ⟨-, hrow, -⟩ := hformed _ (.self _)
      exact ⟨Nat.le_trans (hrow.lower n hn) hlower, Nat.le_trans hupper (hrow.upper n hn)⟩
  | @member span asts n m hn h ih =>
      obtain ⟨hlower, hupper⟩ := ih fun k hk => hformed k (.member hn hk)
      obtain ⟨-, hrow, -⟩ := hformed _ (.self _)
      exact ⟨Nat.le_trans (hrow.lower n hn) hlower, Nat.le_trans hupper (hrow.upper n hn)⟩

theorem InOrder.bounds (h : InOrder lo hi ns) (hm : Holds ns m) : lo ≤ m.span.start ∧ m.span.stop ≤ hi := by
  obtain ⟨n, hn, hm⟩ := hm
  obtain ⟨hlower, hupper⟩ := hm.bounds fun k hk => h.formed k ⟨n, hn, hk⟩
  exact ⟨Nat.le_trans (h.row.lower n hn) hlower, Nat.le_trans hupper (h.row.upper n hn)⟩

/-! ### What is still to come -/

/-- The last node is to be put under a quantifier, which makes it the node `m`. -/
def Pending.Grows (p : Pending) (m : Ast) (place : Nat) : Prop :=
  m.isRepetition = true ∧ ∃ n before, p.items = n :: before ∧ n.mayRepeat = true ∧ n.span.start = m.span.start ∧
    place < m.span.stop

namespace Pending

variable {place : Nat}

theorem not_grows (hp : p.items = []) : ¬p.Grows m place := by
  rintro ⟨-, n, before, hcons, -⟩
  rw [hp] at hcons
  cases hcons

theorem grows_push : (p.push n).Grows m place ↔
    m.isRepetition = true ∧ n.mayRepeat = true ∧ n.span.start = m.span.start ∧ place < m.span.stop := by
  constructor
  · rintro ⟨hrepetition, n', before, hcons, hn, hstart, hstop⟩
    obtain ⟨rfl, rfl⟩ := List.cons.inj hcons
    exact ⟨hrepetition, hn, hstart, hstop⟩
  · rintro ⟨hrepetition, hn, hstart, hstop⟩
    exact ⟨hrepetition, n, p.items, rfl, hn, hstart, hstop⟩

end Pending

/-- A node of the tree has been read already, or it begins further on, or the last node becomes a part of it. -/
theorem Reads.comes (h : Reads p s ast t) (hitem : m.isItem = true) (hm : ast.Has m) :
    Holds p.soFar m ∨ s.skip.position ≤ m.span.start ∨ p.Grows m s.position := by
  induction h with
  | @stop p s t hread => exact .inl ((Pending.has_close hitem _).1 hm)
  | @token p p' ast s t u token hread hput later ih =>
      obtain ⟨hle, hlt⟩ := token_bounds hread (Token.ne_stop_of_put hput)
      have hskip : t.position ≤ (t.withFlags token.changes).skip.position := (t.withFlags token.changes).reaches_skip.le
      obtain rfl | ⟨n, hspan, hleaf, -, -, rfl⟩ | ⟨kind, q, n, -, rfl, hn, rfl⟩ := Token.put_cases hput
      · rcases ih hm with hm | hm | hm
        · exact .inl ((Pending.holds_bar hitem _).1 hm)
        · exact .inr (.inl (by omega))
        · exact absurd hm (Pending.not_grows rfl)
      · rw [Pending.holds_push, Pending.grows_push] at ih
        have hstart : n.span.start = s.skip.position := by rw [hspan]
        rcases ih hm with (hm | hm) | hm | ⟨-, -, hm, -⟩
        · exact .inl hm
        · obtain rfl := Ast.eq_of_isLeaf hleaf hm
          exact .inr (.inl (Nat.le_of_eq hstart.symm))
        · exact .inr (.inl (by omega))
        · exact .inr (.inl (by omega))
      · rw [Pending.holds_push, Pending.grows_push] at ih ⊢
        rcases ih hm with (hm | hm) | hm | ⟨hrepetition, -, hstart, hstop⟩
        · exact .inl (.inl hm)
        · cases hm with
          | self => exact .inr (.inr ⟨rfl, hn, rfl, show s.position < t.position by omega⟩)
          | operand hm => exact .inl (.inr hm)
        · exact .inr (.inl (by omega))
        · have hstop : t.position < m.span.stop := hstop
          exact .inr (.inr ⟨hrepetition, hn, hstart, by omega⟩)
  | @group p body ast s t u w captures changes hread inside hclose later ihInside ihLater =>
      obtain ⟨hle, hlt, htu, hclosed⟩ := group_bounds hread inside hclose
      have hskip : t.position ≤ (t.withFlags changes).skip.position := (t.withFlags changes).reaches_skip.le
      have hskip' := (leaveGroup s.skip u).reaches_skip.le
      rw [Pending.pushGroup, Pending.holds_push, Pending.grows_push] at ihLater
      rcases ihLater hm with (hm | hm) | hm | ⟨-, -, hstart, -⟩
      · exact .inl hm
      · cases hm with
        | self => exact .inr (.inl (Nat.le_refl _))
        | body hm =>
            rcases ihInside hm with hm | hm | hm
            · exact absurd hm (Pending.not_holds_begin _)
            · exact .inr (.inl (by omega))
            · exact absurd hm (Pending.not_grows rfl)
      · exact .inr (.inl (by omega))
      · exact .inr (.inl (Nat.le_of_eq hstart))

/-- Once `m` has begun, it has been read if no quantifier can make the last node a part of it. -/
theorem Reads.holds_of_passed (h : Reads p s ast t) (hitem : m.isItem = true) (hm : ast.Has m)
    (hpassed : m.span.start < s.skip.position) (hgrows : ¬p.Grows m s.position) : Holds p.soFar m := by
  rcases h.comes hitem hm with hm | hm | hm
  · exact hm
  · exact absurd hpassed (Nat.not_lt.2 hm)
  · exact absurd hm hgrows

/-- Once `m` has begun, the last node is `m` or becomes a part of it, unless something before it is `m`. -/
theorem Reads.last_or_grows (h : Reads (p.push n) s ast t) (hitem : m.isItem = true) (hm : ast.Has m)
    (hold : ¬Holds p.soFar m) (honly : n.Has m → m = n) (hpassed : m.span.start < s.skip.position) :
    m = n ∨ (p.push n).Grows m s.position := by
  rcases h.comes hitem hm with hm | hm | hm
  · exact .inl (honly ((Pending.holds_push.1 hm).resolve_left hold))
  · exact absurd hpassed (Nat.not_lt.2 hm)
  · exact .inr hm

/-- What stands in a group begins behind its parenthesis. -/
theorem Reads.le_start {place : Nat} (inside : Reads (.begin place) s ast t) (hitem : m.isItem = true) (hm : ast.Has m) :
    s.position ≤ m.span.start := by
  rcases inside.comes hitem hm with hm | hm | hm
  · exact absurd hm (Pending.not_holds_begin _)
  · exact Nat.le_trans s.reaches_skip.le hm
  · exact absurd hm (Pending.not_grows rfl)

end Attest.Regex

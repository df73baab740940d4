import Attest.Proofs.Regex.Spans

/-!
A group put around a node of a tree. What was read from the span of the node moves into the group, behind the three
characters that open it, and what stands behind it moves on by one character more, for the parenthesis that closes
it. Nothing else changes (`Ast.enclose`).
-/

namespace Attest.Regex

mutual

/-- The node with all spans changed; what becomes of a node is put in its place, from the inside out. Directives, empty
nodes and those that only join others change only their spans. -/
def Ast.rebuild (place : Span → Span) (change : Ast → Ast → Ast) : Ast → Ast
  | .empty span => .empty (place span)
  | .flags span changes => .flags (place span) changes
  | .literal span l => change (.literal span l) (.literal (place span) l)
  | .dot span => change (.dot span) (.dot (place span))
  | .assertion span kind => change (.assertion span kind) (.assertion (place span) kind)
  | .charClass span body => change (.charClass span body) (.charClass (place span) body)
  | .repetition span kind operand =>
      change (.repetition span kind operand) (.repetition (place span) kind (operand.rebuild place change))
  | .group span captures changes body =>
      change (.group span captures changes body) (.group (place span) captures changes (body.rebuild place change))
  | .alternation span asts => .alternation (place span) (Ast.rebuildAll place change asts)
  | .concat span asts => .concat (place span) (Ast.rebuildAll place change asts)
termination_by structural n => n

def Ast.rebuildAll (place : Span → Span) (change : Ast → Ast → Ast) : List Ast → List Ast
  | [] => []
  | n :: ns => n.rebuild place change :: rebuildAll place change ns
termination_by structural ns => ns

end

/-- The span moved to another place. -/
def Span.move (d : Nat) (span : Span) : Span :=
  ⟨span.start + d, span.stop + d⟩

/-- Where a place comes to lie when there is a group around `x`, unless it lies inside that group. -/
def Span.push (x : Span) (place : Nat) : Nat :=
  if place ≤ x.start then place else place + 4

/-- The span when there is a group around `x`. -/
def Span.stretch (x span : Span) : Span :=
  ⟨x.push span.start, x.push span.stop⟩

namespace Ast

def move (d : Nat) : Ast → Ast :=
  rebuild (Span.move d) fun _ n => n

/-- A group around a node; it neither captures nor changes flags. -/
def around (n : Ast) : Ast :=
  .group ⟨n.span.start, n.span.stop + 4⟩ false [] (n.move 3)

/-- The tree with a group around what was read from `x`. -/
def enclose (x : Span) : Ast → Ast :=
  rebuild x.stretch fun n n' => if n.span = x then n.around else n'

end Ast

theorem push_of_le {x : Span} {place : Nat} (h : place ≤ x.start) : x.push place = place :=
  if_pos h

theorem push_of_lt {x : Span} {place : Nat} (h : x.start < place) : x.push place = place + 4 :=
  if_neg (Nat.not_le_of_lt h)

namespace Ast

variable {x : Span} {n : Ast}

theorem rebuildAll_eq_map (place : Span → Span) (change : Ast → Ast → Ast) (ns : List Ast) :
    rebuildAll place change ns = ns.map (rebuild place change) := by
  induction ns with
  | nil => rfl
  | cons n ns ih => rw [rebuildAll, ih, List.map_cons]

theorem rebuild_ast (place : Span → Span) (change : Ast → Ast → Ast) (a : Atom) (span : Span) :
    (a.ast span).rebuild place change = change (a.ast span) (a.ast (place span)) := by
  cases a <;> rfl

theorem rebuild_concat (place : Span → Span) (change : Ast → Ast → Ast) (span : Span) (asts : List Ast) :
    (Ast.concat span asts).rebuild place change = .concat (place span) (asts.map (rebuild place change)) := by
  rw [rebuild, rebuildAll_eq_map]

theorem rebuild_alternation (place : Span → Span) (change : Ast → Ast → Ast) (span : Span) (asts : List Ast) :
    (Ast.alternation span asts).rebuild place change = .alternation (place span) (asts.map (rebuild place change)) := by
  rw [rebuild, rebuildAll_eq_map]

/-! ### Moving -/

@[simp] theorem span_move (d : Nat) (n : Ast) : (n.move d).span = n.span.move d := by
  cases n <;> rfl

@[simp] theorem mayRepeat_move (d : Nat) (n : Ast) : (n.move d).mayRepeat = n.mayRepeat := by
  cases n <;> rfl

theorem isItem_move (d : Nat) (hn : n.isItem = true) : (n.move d).isItem = true := by
  cases n with
  | empty => cases hn
  | alternation => cases hn
  | concat => cases hn
  | _ => rfl

/-- Moving goes with reading. -/
theorem carries_move (d lo hi : Nat) : Carries (move d) (· + d) d lo hi where
  place _ _ _ := rfl
  mayRepeat n := n.mayRepeat_move d
  atom a p q _ _ _ := rebuild_ast _ _ a ⟨p, q⟩
  flags _ _ _ _ _ _ := rfl
  group _ _ _ _ _ _ _ _ := rfl
  repetition kind n q _ _ := by
    rw [span_move]
    rfl
  empty _ := rfl
  concat span asts := rebuild_concat _ _ span asts
  alternation span asts := rebuild_alternation _ _ span asts

/-! ### Enclosing -/

theorem enclose_of_span_eq (hitem : n.isItem = true) (hn : n.mayRepeat = true) (h : n.span = x) : n.enclose x = n.around := by
  cases n with
  | flags => cases hn
  | empty => cases hn
  | alternation => cases hitem
  | concat => cases hitem
  | _ => exact if_pos h

theorem enclose_flags (x span : Span) (changes : FlagChanges) :
    (Ast.flags span changes).enclose x = .flags (x.stretch span) changes := rfl

theorem enclose_ast (a : Atom) (span : Span) (h : span ≠ x) : (a.ast span).enclose x = a.ast (x.stretch span) := by
  rw [enclose, rebuild_ast, if_neg]
  rwa [span_ast]

theorem enclose_repetition {span : Span} (h : span ≠ x) (kind : RepetitionKind) (operand : Ast) :
    (Ast.repetition span kind operand).enclose x = .repetition (x.stretch span) kind (operand.enclose x) :=
  if_neg h

theorem enclose_group {span : Span} (h : span ≠ x) (captures : Bool) (changes : FlagChanges) (body : Ast) :
    (Ast.group span captures changes body).enclose x = .group (x.stretch span) captures changes (body.enclose x) :=
  if_neg h

theorem enclose_concat (x span : Span) (asts : List Ast) :
    (Ast.concat span asts).enclose x = .concat (x.stretch span) (asts.map (enclose x)) :=
  rebuild_concat _ _ span asts

theorem enclose_alternation (x span : Span) (asts : List Ast) :
    (Ast.alternation span asts).enclose x = .alternation (x.stretch span) (asts.map (enclose x)) :=
  rebuild_alternation _ _ span asts

@[simp] theorem mayRepeat_enclose (x : Span) (n : Ast) : (n.enclose x).mayRepeat = n.mayRepeat := by
  cases n with
  | empty => rfl
  | flags => rfl
  | alternation => rfl
  | concat => rfl
  | _ => rw [enclose, rebuild]; split <;> rfl

theorem span_enclose (hx : x.start < x.stop) (n : Ast) : (n.enclose x).span = x.stretch n.span := by
  have hself (n' : Ast) (hn' : n'.span = x.stretch n.span) :
      (if n.span = x then n.around else n').span = x.stretch n.span := by
    split
    next h => rw [around, span, h, Span.stretch, push_of_le (Nat.le_refl _), push_of_lt hx]
    next => exact hn'
  cases n with
  | empty => rfl
  | flags => rfl
  | alternation => rfl
  | concat => rfl
  | _ => exact hself _ rfl

end Ast

variable {x : Span} {p q : Nat}

/-- What ends before `x` stays in its place. -/
theorem stretch_before (hpq : p ≤ q) (hq : q ≤ x.start) : x.stretch ⟨p, q⟩ = ⟨p, q⟩ := by
  rw [Span.stretch, push_of_le (Nat.le_trans hpq hq), push_of_le hq]

/-- What begins behind the start of `x` moves on. -/
theorem stretch_behind (hp : x.start < p) (hpq : p ≤ q) : x.stretch ⟨p, q⟩ = ⟨p + 4, q + 4⟩ := by
  rw [Span.stretch, push_of_lt hp, push_of_lt (Nat.lt_of_lt_of_le hp hpq)]

theorem ne_of_stop_le (hx : x.start < x.stop) (hq : q ≤ x.start) : (⟨p, q⟩ : Span) ≠ x := by
  rintro rfl
  exact absurd hq (Nat.not_le_of_lt hx)

theorem ne_of_le_start (hx : x.start < x.stop) (hp : x.stop ≤ p) : (⟨p, q⟩ : Span) ≠ x := by
  rintro rfl
  exact absurd hp (Nat.not_le_of_lt hx)

/-- What is read before `x` stays as it is. -/
theorem Ast.carries_enclose_before (hx : x.start < x.stop) : Carries (Ast.enclose x) x.push 0 0 x.start where
  place q _ hq := push_of_le hq
  mayRepeat n := n.mayRepeat_enclose x
  atom a p q _ hpq hq := by
    rw [enclose_ast a _ (ne_of_stop_le hx hq), stretch_before (Nat.le_of_lt hpq) hq]
    rfl
  flags changes p q _ hpq hq := by
    rw [enclose_flags, stretch_before (Nat.le_of_lt hpq) hq]
    rfl
  group captures changes body p q _ hpq hq := by
    rw [enclose_group (ne_of_stop_le hx hq), stretch_before (Nat.le_of_lt hpq) hq]
    rfl
  repetition kind n q _ hq := by
    rw [enclose_repetition (ne_of_stop_le hx hq), span_enclose hx, Span.stretch,
      Span.stretch, push_of_le hq]
    rfl
  empty _ := rfl
  concat := enclose_concat x
  alternation := enclose_alternation x

/-- What is read behind `x` moves on. -/
theorem Ast.carries_enclose_behind (hx : x.start < x.stop) (hi : Nat) : Carries (Ast.enclose x) x.push 4 x.stop hi where
  place q hq _ := push_of_lt (Nat.lt_of_lt_of_le hx hq)
  mayRepeat n := n.mayRepeat_enclose x
  atom a p q hp hpq _ := by
    rw [enclose_ast a _ (ne_of_le_start hx hp), stretch_behind (by omega) (by omega)]
  flags changes p q hp hpq _ := by
    rw [enclose_flags, stretch_behind (by omega) (by omega)]
  group captures changes body p q hp hpq _ := by
    rw [enclose_group (ne_of_le_start hx hp), stretch_behind (by omega) (by omega)]
  repetition kind n q hq _ := by
    have hstart : x.start < q := by omega
    rw [enclose_repetition (by rintro rfl; exact absurd hq (Nat.lt_irrefl _)), span_enclose hx, Span.stretch,
      Span.stretch, push_of_lt hstart]
  empty _ := rfl
  concat := enclose_concat x
  alternation := enclose_alternation x

end Attest.Regex

import Attest.Proofs.Regex.Reading

/-!
Reading alternatives does not depend on what comes behind them: the same tokens are read in a text with another end, and
the same nodes put down, if only the other end begins so that the last token stops there too (`Seam`). The nodes may be
changed on the way, as long as the change goes with the way in which they are put together (`Carries`): moved to
other places, or with a group put around one of them.
-/

namespace Attest.Regex

open Scanner

variable {s t u : Scanner} {r v : List Char} {d : Nat}

/-- One end of a text may stand for another one wherever nodes are read. -/
structure Seam (r v : List Char) : Prop where
  closes : Escape.Closes r v
  eq_nil : r = [] → v = []
  length_le : r.length ≤ v.length

theorem joins_of_closes (h : Escape.Closes r v) : Joins r v := by
  rcases h with hv | hv | ⟨rfl, rfl⟩
  · exact .inr (.inl hv)
  · exact .inr (.inr hv)
  · exact .inl rfl

theorem Seam.meets (h : Seam r v) (s : Scanner) : s.Meets r v :=
  ⟨joins_of_closes h.closes, fun hr => .inl (h.eq_nil hr)⟩

theorem seam_nil : Seam [] [] :=
  ⟨.inr (.inr ⟨rfl, rfl⟩), fun h => h, Nat.le_refl _⟩

/-! ### Tokens -/

/-- A token is read in the same way in a text with another end. Where nothing was left behind it, it must be an atom, and
no comment may have begun in it. -/
theorem readToken_swap {token : Token} (h : readToken s = some (token, t)) (htoken : token ≠ .stop)
    (hcloses : Escape.Closes r v) (hlength : r.length ≤ v.length)
    (hopen : r = [] → v = [] ∨ (∃ a, token = .atom a) ∧ (s.rest.head? = some '\\' → '#' ∉ s.bump.bump.rest))
    (hbrace : ∀ a, token = .atom a → t.rest.head? = some '{' → t.rest = r ∨ r <:+ t.advance.rest) (hr : r <:+ t.rest) :
    readToken (s.swap r v d) = some (token, t.swap r v d) := by
  obtain ⟨rfl, -⟩ | ⟨-, c, cs, hs, hreaches⟩ := readToken_cases h
  · exact absurd rfl htoken
  have hjoins := joins_of_closes hcloses
  have hcs : r <:+ cs := rest_bump hs ▸ hr.trans hreaches.suffix
  have hrest {c' : Char} {cs' : List Char} (hs' : s.rest = c' :: cs') : (s.swap r v d).rest = c' :: swapEnd r v cs' :=
    rest_swap hs' ((List.cons.inj (hs.symm.trans hs')).2 ▸ hcs)
  have hbump : (s.swap r v d).bump = s.bump.swap r v d := bump_swap hs hcs
  have hmeets (hatom : ∀ a, token ≠ .atom a) : s.Meets r v :=
    ⟨hjoins, fun hnil => .inl ((hopen hnil).resolve_right fun h => h.1.elim hatom)⟩
  have hsign {kind : RepetitionKind} (h : some (Token.quantifier kind, passSign s) = some (token, t)) :
      some (Token.quantifier kind, passSign (s.swap r v d)) = some (token, t.swap r v d) := by
    obtain ⟨rfl, rfl⟩ := Prod.mk.inj (Option.some.inj h)
    rw [passSign_swap hs hr hjoins]
  have hsingle {o : Token} (h : some (o, s.bump) = some (token, t)) :
      some (o, (s.swap r v d).bump) = some (token, t.swap r v d) := by
    obtain ⟨rfl, rfl⟩ := Prod.mk.inj (Option.some.inj h)
    rw [hbump]
  rw [readToken] at h
  split at h
  case h_1 hs' => exact absurd (Prod.mk.inj (Option.some.inj h)).1.symm htoken
  case h_2 hs' => exact absurd (Prod.mk.inj (Option.some.inj h)).1.symm htoken
  case h_4 hs' =>
    obtain ⟨⟨o, w⟩, hread, heq⟩ := Option.map_eq_some_iff.1 h
    obtain ⟨rfl, rfl⟩ := Prod.mk.inj heq
    simp only [readToken, hrest hs', readOpening_swap hs hread (hmeets fun a => Token.noConfusion) hr, Option.map_some]
  case h_5 hs' =>
    obtain ⟨⟨body, w⟩, hread, heq⟩ := Option.map_eq_some_iff.1 h
    obtain ⟨rfl, rfl⟩ := Prod.mk.inj heq
    simp only [readToken, hrest hs', readBracket_swap hs hread hr hlength, Option.map_some]
  case h_9 hs' =>
    obtain ⟨⟨range, w⟩, hread, heq⟩ := Option.map_eq_some_iff.1 h
    obtain ⟨rfl, rfl⟩ := Prod.mk.inj heq
    simp only [readToken, hrest hs', readRange_swap hs hread (hmeets fun a => Token.noConfusion) hr, Option.map_some]
  case h_10 hs' =>
    obtain ⟨⟨e, w⟩, hread, heq⟩ := Option.map_eq_some_iff.1 h
    obtain ⟨rfl, rfl⟩ := Prod.mk.inj heq
    have hmeets' : s.bump.bump.Meets r v :=
      ⟨hjoins, fun hnil => (hopen hnil).imp_right fun h => h.2 (by rw [hs', List.head?_cons])⟩
    simp only [readToken, hrest hs', Escape.read_swap hs hread hmeets' hr fun kind _ => ⟨hcloses, hbrace _ rfl⟩,
      Option.map_some]
  case h_6 hs' => simp only [readToken, hrest hs']; exact hsign h
  case h_7 hs' => simp only [readToken, hrest hs']; exact hsign h
  case h_8 hs' => simp only [readToken, hrest hs']; exact hsign h
  all_goals
    next hs' => simp only [readToken, hrest hs']; exact hsingle h

/-- At a seam the next token is the same, and so are the blanks before it. -/
theorem Seam.readToken_swap {token : Token} (hseam : Seam r v) (h : readToken s.skip = some (token, t))
    (htoken : token ≠ .stop)
    (hbrace : ∀ a, token = .atom a → t.rest.head? = some '{' → t.rest = r ∨ r <:+ t.advance.rest) (hr : r <:+ t.rest) :
    (s.swap r v d).skip = s.skip.swap r v d ∧ readToken (s.swap r v d).skip = some (token, t.swap r v d) := by
  have hskip : (s.swap r v d).skip = s.skip.swap r v d :=
    skip_swap (hseam.meets s) (hr.trans (reaches_readToken h).suffix)
  rw [hskip]
  exact ⟨rfl, Regex.readToken_swap h htoken hseam.closes hseam.length_le (fun hnil => .inl (hseam.eq_nil hnil)) hbrace hr⟩

theorem readToken_of_stop (h : s.rest = [] ∨ s.rest.head? = some ')') : readToken s = some (.stop, s) := by
  rcases h with h | h
  · simp only [readToken, h]
  · obtain ⟨cs, hs⟩ := exists_rest_of_head? h
    simp only [readToken, hs]

theorem leaveGroup_swap (hclose : u.rest.head? = some ')') (hr : r <:+ u.bump.rest) :
    leaveGroup (s.swap r v d) (u.swap r v d) = (leaveGroup s u).swap r v d := by
  obtain ⟨cs, hu⟩ := exists_rest_of_head? hclose
  rw [leaveGroup, bump_swap hu (rest_bump hu ▸ hr)]
  rfl

/-! ### Nodes -/

/-- Neither a directive nor an empty node takes a quantifier. -/
def Ast.mayRepeat : Ast → Bool
  | .empty _ => false
  | .flags _ _ => false
  | _ => true

namespace Pending

variable {p p' : Pending}

theorem push_inj {n n' : Ast} (h : p.push n = p'.push n') : p = p' ∧ n = n' := by
  obtain ⟨start, done, since, items⟩ := p
  obtain ⟨start', done', since', items'⟩ := p'
  simp only [push, mk.injEq, List.cons.injEq] at h ⊢
  obtain ⟨hstart, hdone, hsince, hn, hitems⟩ := h
  exact ⟨⟨hstart, hdone, hsince, hitems⟩, hn⟩

theorem quantify_push (p : Pending) (n : Ast) (kind : RepetitionKind) (stop : Nat) : (p.push n).quantify kind stop =
    if n.mayRepeat then some (p.push (.repetition ⟨n.span.start, stop⟩ kind n)) else none := by
  cases n <;> rfl

theorem quantify_eq_some_iff {kind : RepetitionKind} {stop : Nat} : p.quantify kind stop = some p' ↔
    ∃ q n, p = push q n ∧ n.mayRepeat = true ∧ q.push (.repetition ⟨n.span.start, stop⟩ kind n) = p' := by
  constructor
  · intro h
    obtain ⟨start, done, since, _ | ⟨n, before⟩⟩ := p
    · cases h
    · have hpush : Pending.mk start done since (n :: before) = push ⟨start, done, since, before⟩ n := rfl
      rw [hpush, quantify_push] at h
      split at h
      next hn => exact ⟨_, n, rfl, hn, Option.some.inj h⟩
      next => cases h
  · rintro ⟨q, n, rfl, hn, rfl⟩
    rw [quantify_push, if_pos hn]

/-- What has been read so far, with its nodes changed by `f` and its places by `g`. -/
def map (f : Ast → Ast) (g : Nat → Nat) (p : Pending) : Pending :=
  ⟨g p.start, p.done.map f, g p.since, p.items.map f⟩

theorem map_begin (f : Ast → Ast) (g : Nat → Nat) (place : Nat) : (begin place).map f g = begin (g place) := rfl

theorem map_push (f : Ast → Ast) (g : Nat → Nat) (p : Pending) (n : Ast) : (p.push n).map f g = (p.map f g).push (f n) := rfl

end Pending

/-- A change `f` of nodes, and `g` of places, that moves what is read between `lo` and `hi` by `d` places. -/
structure Carries (f : Ast → Ast) (g : Nat → Nat) (d lo hi : Nat) : Prop where
  place : ∀ q, lo ≤ q → q ≤ hi → g q = q + d
  mayRepeat : ∀ n, (f n).mayRepeat = n.mayRepeat
  atom : ∀ a p q, lo ≤ p → p < q → q ≤ hi → f (Atom.ast ⟨p, q⟩ a) = a.ast ⟨p + d, q + d⟩
  flags : ∀ changes p q, lo ≤ p → p < q → q ≤ hi → f (.flags ⟨p, q⟩ changes) = .flags ⟨p + d, q + d⟩ changes
  group : ∀ captures changes body p q, lo ≤ p → p < q → q ≤ hi →
    f (.group ⟨p, q⟩ captures changes body) = .group ⟨p + d, q + d⟩ captures changes (f body)
  repetition : ∀ kind n q, lo < q → q ≤ hi →
    f (.repetition ⟨n.span.start, q⟩ kind n) = .repetition ⟨(f n).span.start, q + d⟩ kind (f n)
  empty : ∀ span, f (.empty span) = .empty ⟨g span.start, g span.stop⟩
  concat : ∀ span asts, f (.concat span asts) = .concat ⟨g span.start, g span.stop⟩ (asts.map f)
  alternation : ∀ span asts, f (.alternation span asts) = .alternation ⟨g span.start, g span.stop⟩ (asts.map f)

variable {f : Ast → Ast} {g : Nat → Nat} {lo hi : Nat} {p p' : Pending} {ast : Ast}

namespace Carries

theorem ofConcat (hf : Carries f g d lo hi) (span : Span) (asts : List Ast) :
    f (.ofConcat span asts) = .ofConcat ⟨g span.start, g span.stop⟩ (asts.map f) := by
  match asts with
  | [] => exact hf.empty span
  | [_] => rfl
  | a :: b :: asts => exact hf.concat span (a :: b :: asts)

theorem ofAlternation (hf : Carries f g d lo hi) (span : Span) (asts : List Ast) :
    f (.ofAlternation span asts) = .ofAlternation ⟨g span.start, g span.stop⟩ (asts.map f) := by
  match asts with
  | [] => exact hf.empty span
  | [_] => rfl
  | a :: b :: asts => exact hf.alternation span (a :: b :: asts)

theorem pending_concat (hf : Carries f g d lo hi) (p : Pending) (stop : Nat) :
    f (p.concat stop) = (p.map f g).concat (g stop) := by
  rw [Pending.concat, hf.ofConcat, List.map_reverse]
  rfl

theorem pending_close (hf : Carries f g d lo hi) (p : Pending) (stop : Nat) :
    f (p.close stop) = (p.map f g).close (g stop) := by
  rw [Pending.close, hf.ofAlternation, List.map_reverse, List.map_cons, hf.pending_concat]
  rfl

end Carries

theorem Token.put_map {token : Token} {i j : Nat} (hf : Carries f g d lo hi) (hlo : lo ≤ i) (hij : i < j) (hhi : j ≤ hi)
    (h : token.put ⟨i, j⟩ p = some p') : token.put ⟨i + d, j + d⟩ (p.map f g) = some (p'.map f g) := by
  cases token with
  | stop => cases h
  | bar =>
      obtain rfl := Option.some.inj h
      have hbar : (p.bar i).map f g = (p.map f g).bar (i + d) := by
        rw [Pending.bar, Pending.map, List.map_cons, hf.pending_concat, hf.place i hlo (by omega),
          hf.place (i + 1) (by omega) (by omega), Nat.add_right_comm]
        rfl
      exact congrArg some hbar.symm
  | atom a =>
      obtain rfl := Option.some.inj h
      rw [Pending.map_push, hf.atom a i j hlo hij hhi, Token.put]
  | opening opening =>
      cases opening with
      | group => cases h
      | directive changes =>
          obtain rfl := Option.some.inj h
          rw [Pending.map_push, hf.flags changes i j hlo hij hhi, Token.put]
  | quantifier kind =>
      obtain ⟨q, n, rfl, hn, rfl⟩ := Pending.quantify_eq_some_iff.1 h
      refine Pending.quantify_eq_some_iff.2 ⟨q.map f g, f n, rfl, (hf.mayRepeat n).trans hn, ?_⟩
      rw [Pending.map_push, hf.repetition kind n j (Nat.lt_of_le_of_lt hlo hij) hhi]

/-! ### Whole runs -/

/-- Neither a blank nor the sign of a comment is passed over. -/
theorem skip_eq_self {c : Char} {cs : List Char} (hs : s.rest = c :: cs) (hblank : isBlank c = false) (hc : c ≠ '#') :
    s.skip = s := by
  obtain ⟨rest, position, verbose, names⟩ := s
  obtain rfl : rest = c :: cs := hs
  cases verbose with
  | false => rfl
  | true => simp [skip, passBlanks, hblank, hc]

/-- A brace is the sign of a quantifier, and more is read than the blanks behind it. -/
theorem readToken_brace {token : Token} (h : readToken s.skip = some (token, t)) (hs : s.rest.head? = some '{') :
    s.advance.Reaches t ∧ ∃ kind, token = .quantifier kind := by
  obtain ⟨cs, hs⟩ := exists_rest_of_head? hs
  simp only [skip_eq_self hs (by decide) (by decide), readToken, hs] at h
  obtain ⟨⟨range, w⟩, hrange, heq⟩ := Option.map_eq_some_iff.1 h
  obtain ⟨rfl, rfl⟩ := Prod.mk.inj heq
  exact ⟨reaches_readRange hrange, _, rfl⟩

theorem Reads.suffix_advance (h : Reads p s ast t) (hs : s.rest.head? = some '{') : t.rest <:+ s.advance.rest := by
  cases h with
  | stop h => exact (readToken_brace h hs).1.suffix
  | token h hput later => exact later.precedes.suffix.trans (readToken_brace h hs).1.suffix
  | group h inside hclose later =>
      obtain ⟨kind, heq⟩ := (readToken_brace h hs).2
      cases heq

/-- **Reading alternatives does not depend on what comes behind them.** -/
theorem Reads.swap (h : Reads p s ast t) (hf : Carries f g d lo hi) (hseam : Seam r v) (hlo : lo ≤ s.position)
    (hhi : t.position ≤ hi) (hr : r <:+ t.rest) (hstop : t.rest = r → v = [] ∨ v.head? = some ')') :
    Reads (p.map f g) (s.swap r v d) (f ast) (t.swap r v d) := by
  induction h with
  | @stop p s t hread =>
      obtain ⟨-, rfl, hend⟩ | ⟨hne, -⟩ := readToken_cases hread
      · have hend' : (s.skip.swap r v d).rest = [] ∨ (s.skip.swap r v d).rest.head? = some ')' := by
          rcases eq_or_exists_cons hr with hs | ⟨c, cs, hs, hcs⟩
          · rw [rest_swap_self hs]
            exact hstop hs
          · rw [rest_swap hs hcs]
            rw [hs] at hend
            exact hend.imp (fun h => absurd h (List.cons_ne_nil _ _)) id
        have hskip : (s.swap r v d).skip = s.skip.swap r v d := skip_swap (hseam.meets s) hr
        rw [hf.pending_close, hf.place _ (Nat.le_trans hlo s.reaches_skip.le) hhi]
        exact .stop (by rw [hskip, readToken_of_stop hend'])
      · exact absurd rfl hne
  | @token p p' ast s t u token hread hput later ih =>
      have hne := Token.ne_stop_of_put hput
      have hbrace (a : Atom) (ha : token = .atom a) (hhead : t.rest.head? = some '{') : t.rest = r ∨ r <:+ t.advance.rest := by
        subst ha
        exact .inr (hr.trans (later.suffix_advance hhead))
      obtain ⟨hskip, hreadSwap⟩ := hseam.readToken_swap (d := d) hread hne hbrace (hr.trans later.precedes.suffix)
      obtain ⟨hle, hlt⟩ := token_bounds hread hne
      have hu : t.position ≤ u.position := later.precedes.le
      have hputSwap := Token.put_map hf (by omega) hlt (by omega) hput
      exact .token hreadSwap (hskip ▸ hputSwap) (ih (by simp only [Scanner.withFlags]; omega) hhi hr hstop)
  | @group p body ast s t u w captures changes hread inside hclose later ihInside ihLater =>
      have hru : r <:+ u.bump.rest := hr.trans later.precedes.suffix
      have hrt : r <:+ t.rest := (hru.trans u.reaches_bump.suffix).trans inside.precedes.suffix
      obtain ⟨hskip, hreadSwap⟩ :=
        hseam.readToken_swap (d := d) hread Token.noConfusion (fun a ha => Token.noConfusion ha) hrt
      have hleave : leaveGroup (s.swap r v d).skip (u.swap r v d) = (leaveGroup s.skip u).swap r v d := by
        rw [hskip, leaveGroup_swap hclose hru]
      obtain ⟨hle, hlt, htu, hclosed⟩ := group_bounds hread inside hclose
      have hend := later.precedes.le
      have hbody := ihInside (by simp only [Scanner.withFlags]; omega) (by omega) (hru.trans u.reaches_bump.suffix)
        fun heq => absurd heq (ne_of_suffix_bump hclose hru)
      have hpush : (p.pushGroup s.skip u captures changes body).map f g =
          (p.map f g).pushGroup (s.swap r v d).skip (u.swap r v d) captures changes (f body) := by
        rw [Pending.pushGroup, Pending.pushGroup, Pending.map_push, hf.group captures changes body _ _ (by omega) (by omega)
          (by omega), hleave, hskip]
        rfl
      rw [Pending.map_begin, hf.place t.position (by omega) (by omega)] at hbody
      obtain ⟨cs, hu⟩ := exists_rest_of_head? hclose
      refine .group hreadSwap hbody (head?_swap hu (rest_bump hu ▸ hru)) ?_
      rw [← hpush, hleave]
      exact ihLater (by omega) hhi hr hstop

end Attest.Regex

import Attest.Proofs.Regex.Enclosing.Nodes

/-!
Reading a pattern with a group around one of its nodes gives the tree with a group around the node. Up to the
node both texts are read alike. There one of them opens a group, in which the node is read, with all quantifiers that
belong to it, and behind the parenthesis that closes it both are read alike again, four places apart.
-/

namespace Attest.Regex

open Scanner

variable {s t u : Scanner} {r v : List Char} {d : Nat} {p p' : Pending} {ast body : Ast} {token : Token} {n m : Ast}

/-! ### The node in its group -/

theorem passBlanks_head {b : Bool} {cs cs' : List Char} {k : Nat} {c : Char} (h : (passBlanks b cs k).1 = c :: cs') :
    isBlank c = false ∧ c ≠ '#' := by
  induction cs generalizing b k with
  | nil => simp [passBlanks] at h
  | cons c' cs ih =>
      cases b with
      | true => exact ih h
      | false =>
          rw [passBlanks] at h
          split_ifs at h with hblank hcomment
          · exact ih h
          · exact ih h
          · obtain ⟨rfl, -⟩ := List.cons.inj h
            exact ⟨eq_false_of_ne_true hblank, hcomment⟩

/-- Where nothing is passed over, nothing is passed over before the same character in another text. -/
theorem skip_of_head {c : Char} {cs cs' : List Char} (hs : s.skip.rest = c :: cs) (ht : t.rest = c :: cs')
    (hverbose : t.verbose = s.skip.verbose) : t.skip = t := by
  obtain ⟨rest, position, verbose, names⟩ := s
  cases verbose with
  | false =>
      have hverbose : t.verbose = false := hverbose
      rw [skip, hverbose]
      rfl
  | true =>
      obtain ⟨hblank, hcomment⟩ := @passBlanks_head false rest cs position c hs
      exact skip_eq_self ht hblank hcomment

theorem seam_close {post : List Char} (hpost : post ≠ []) : Seam post (')' :: post) :=
  ⟨.inr (.inl rfl), fun h => absurd h hpost, Nat.le_succ _⟩

/-- Further on in the text, at some place, stands an end of it. -/
structure Scanner.Sees (s : Scanner) (place : Nat) (cs : List Char) : Prop where
  suffix : cs <:+ s.rest
  position : place + cs.length = s.position + s.rest.length

theorem Scanner.Sees.after {place : Nat} {cs : List Char} (h : s.Sees place cs) (hst : s.Precedes t)
    (hle : t.position ≤ place) : t.Sees place cs := by
  have hs := h.position
  have ht := hst.position
  exact ⟨List.suffix_of_suffix_length_le h.suffix hst.suffix (by omega), by omega⟩

theorem Scanner.Sees.rest_eq {place : Nat} {cs : List Char} (h : s.Sees place cs) (hs : s.position = place) :
    s.rest = cs := by
  have hposition := h.position
  exact (h.suffix.eq_of_length (by omega)).symm

/-- What is read next leaves an end of the text over: it has come already, or what a brace begins ends before it. -/
def Leaves (s : Scanner) (post : List Char) : Prop :=
  post <:+ s.rest ∧ (s.rest = post ∨ post ≠ [] ∧ (s.rest.head? = some '{' → post <:+ s.advance.rest))

theorem repetition_only {x : Span} {kind : RepetitionKind} (hn : ¬n.Has m) (hm : (Ast.repetition x kind n).Has m) :
    m = .repetition x kind n := by
  cases hm with
  | self => rfl
  | operand hm => exact absurd hm hn

/-- What begins before the inside of a group is not in it. -/
theorem group_only {captures : Bool} {changes : FlagChanges} {x : Span} {place : Nat}
    (inside : Reads (.begin place) (t.withFlags changes) body u) (hitem : m.isItem = true) (hlt : m.span.start < t.position)
    (hm : (Ast.group x captures changes body).Has m) : m = .group x captures changes body := by
  cases hm with
  | self => rfl
  | body hm =>
      have hstart : t.position ≤ m.span.start := inside.le_start hitem hm
      exact absurd hlt (Nat.not_lt.2 hstart)

/-- Behind the node its group is closed. -/
theorem reads_close (s : Scanner) (n : Ast) (place : Nat) :
    Reads ((Pending.begin place).push n) (s.swap s.rest (')' :: s.rest) 3) n (s.swap s.rest (')' :: s.rest) 3) := by
  have hrest : (s.swap s.rest (')' :: s.rest) 3).rest = ')' :: s.rest := rest_swap_self rfl
  have hskip : (s.swap s.rest (')' :: s.rest) 3).skip = s.swap s.rest (')' :: s.rest) 3 :=
    skip_eq_self hrest (by decide) (by decide)
  exact .stop (p := (Pending.begin place).push n) (by rw [hskip, readToken_of_stop (.inr (by rw [hrest, List.head?_cons]))])

section Quantifiers

variable {post : List Char} {kind : RepetitionKind} {place : Nat}

/-- A quantifier is read in the group as well, since the text does not end with it. -/
theorem reads_quantifier_enclosed (hread : readToken s.skip = some (.quantifier kind, t)) (hn : n.mayRepeat = true)
    (hne : post ≠ []) (hpost : post <:+ t.rest)
    (h : Reads ((Pending.begin place).push ((Ast.repetition ⟨n.span.start, t.position⟩ kind n).move 3))
      (t.swap post (')' :: post) 3) body u) :
    Reads ((Pending.begin place).push (n.move 3)) (s.swap post (')' :: post) 3) body u := by
  obtain ⟨hskip, hreadSwap⟩ := (seam_close hne).readToken_swap (d := 3) hread Token.noConfusion
    (fun a ha => Token.noConfusion ha) hpost
  have hlt := (token_bounds hread Token.noConfusion).2
  have hmove := (Ast.carries_move 3 0 t.position).repetition kind n t.position (Nat.zero_lt_of_lt hlt) (Nat.le_refl _)
  refine .token hreadSwap ?_ h
  rw [Token.put, Pending.quantify_push, Ast.mayRepeat_move, hn, hmove]
  rfl

/-- The node `n`, read last, begins where `m` does, and nothing that has been read is `m` but perhaps this node. -/
structure Starts (p : Pending) (n m : Ast) (place : Nat) : Prop where
  mayRepeat : n.mayRepeat = true
  start : n.span.start = m.span.start
  stop : n.span.stop = place
  lt : n.span.start < place
  old : ¬Holds p.soFar m
  only : n.Has m → m = n

theorem Starts.not_holds (h : Starts p n m place) (hnm : m ≠ n) : ¬Holds (p.push n).soFar m := by
  rw [Pending.holds_push]
  exact fun hm => hm.elim h.old fun hm => hnm (h.only hm)

/-- Under a quantifier the node still begins where `m` does. -/
theorem Starts.quantify {stop : Nat} (h : Starts p n m place) (hnm : m ≠ n) (hstop : place < stop) :
    Starts p (.repetition ⟨n.span.start, stop⟩ kind n) m stop where
  mayRepeat := rfl
  start := h.start
  stop := rfl
  lt := Nat.lt_trans h.lt hstop
  old := h.old
  only := repetition_only fun hm => hnm (h.only hm)

/-- The node `n`, read last at `s`, has become `m` at `s'` by the quantifiers in between; and these are read in a group as
well. -/
structure Grown (p : Pending) (ast n m : Ast) (post : List Char) (s s' t : Scanner) : Prop where
  reaches : s.Reaches s'
  position : s'.position = m.span.stop
  rest : s'.rest = post
  reads : Reads (p.push m) s' ast t
  leaves : Leaves s post
  inner : ∀ place, Reads ((Pending.begin place).push (n.move 3)) (s.swap post (')' :: post) 3) (m.move 3)
    (s'.swap post (')' :: post) 3)

theorem Grown.refl (h : Reads (p.push m) s ast t) (hs : m.span.stop = s.position) (hsees : s.Sees m.span.stop post) :
    Grown p ast m m post s s t := by
  obtain rfl := hsees.rest_eq hs.symm
  exact ⟨.refl s, hs.symm, rfl, h, ⟨List.suffix_rfl, .inl rfl⟩, reads_close s _⟩

/-- One quantifier more before the others. -/
theorem Grown.quantify {s' w : Scanner} (hread : readToken s.skip = some (.quantifier kind, w)) (hn : n.mayRepeat = true)
    (hne : post ≠ []) (h : Grown p ast (.repetition ⟨n.span.start, w.position⟩ kind n) m post w s' t) :
    Grown p ast n m post s s' t where
  reaches := (s.reaches_skip.trans (reaches_readToken hread)).trans h.reaches
  position := h.position
  rest := h.rest
  reads := h.reads
  leaves := ⟨h.leaves.1.trans (s.reaches_skip.trans (reaches_readToken hread)).suffix,
    .inr ⟨hne, fun hbrace => h.leaves.1.trans (readToken_brace hread hbrace).1.suffix⟩⟩
  inner _ := reads_quantifier_enclosed hread hn hne h.leaves.1 (h.inner _)

/-- The last node read becomes a node of the tree by the quantifiers that are read next. -/
theorem Reads.continues {q : Pending} (h : Reads q s ast t) (hq : q = p.push n) (hitem : m.isItem = true) (hm : ast.Has m)
    (hstarts : Starts p n m s.position) (hsees : s.Sees m.span.stop post) (hend : m.isRepetition = true → post ≠ []) :
    ∃ s', Grown p ast n m post s s' t := by
  by_cases hnm : m = n
  · subst hnm
    exact ⟨s, .refl (hq ▸ h) hstarts.stop hsees⟩
  have hnew := hstarts.not_holds hnm
  -- As long as it is not `m` itself, nothing but a quantifier can come next.
  induction h generalizing n with
  | @stop q s t hread => exact absurd (hq ▸ (Pending.has_close hitem _).1 hm) hnew
  | @token q q' ast s t u token hread hput later ih =>
      subst hq
      have hstart := hstarts.start
      have hplace := hstarts.lt
      obtain ⟨hle, hlt⟩ := token_bounds hread (Token.ne_stop_of_put hput)
      have hskip : t.position ≤ (t.withFlags token.changes).skip.position := (t.withFlags token.changes).reaches_skip.le
      obtain rfl | ⟨n', hspan', hleaf, -, -, rfl⟩ | ⟨kind, q, n', rfl, hpush, -, rfl⟩ := Token.put_cases hput
      · have hread := later.holds_of_passed hitem hm (by omega) (Pending.not_grows rfl)
        exact absurd ((Pending.holds_bar hitem _).1 hread) hnew
      · have hstart' : n'.span.start = s.skip.position := by rw [hspan']
        rcases later.last_or_grows hitem hm hnew (Ast.eq_of_isLeaf hleaf) (by omega) with rfl | hgrows
        · omega
        · have hm := (Pending.grows_push.1 hgrows).2.2.1
          omega
      · obtain ⟨rfl, rfl⟩ := Pending.push_inj hpush
        have hstarts' : Starts p (.repetition ⟨n.span.start, t.position⟩ kind n) m t.position :=
          hstarts.quantify hnm (by omega)
        obtain ⟨hrepetition, hstop⟩ : m.isRepetition = true ∧ t.position ≤ m.span.stop := by
          rcases later.last_or_grows hitem hm hstarts.old hstarts'.only (by omega) with rfl | hgrows
          · exact ⟨rfl, Nat.le_refl _⟩
          · obtain ⟨hrepetition, -, -, hstop⟩ := Pending.grows_push.1 hgrows
            exact ⟨hrepetition, Nat.le_of_lt hstop⟩
        have hsees' := hsees.after (s.reaches_skip.trans (reaches_readToken hread)).toPrecedes hstop
        obtain ⟨s', hgrown⟩ : ∃ s', Grown p ast (.repetition ⟨n.span.start, t.position⟩ kind n) m post t s' u := by
          by_cases hnm' : m = .repetition ⟨n.span.start, t.position⟩ kind n
          · subst hnm'
            exact ⟨t, .refl later rfl hsees'⟩
          · exact ih rfl hm hstarts' hsees' hnm' (hstarts'.not_holds hnm')
        exact ⟨s', .quantify hread hstarts.mayRepeat (hend hrepetition) hgrown⟩
  | @group q body ast s t u w captures changes hread inside hclose later ihInside ihLater =>
      subst hq
      have hstart := hstarts.start
      have hplace := hstarts.lt
      obtain ⟨hle, hlt, htu, hclosed⟩ := group_bounds hread inside hclose
      have hskip := (leaveGroup s.skip u).reaches_skip.le
      have hbefore : m.span.start < t.position := by omega
      rcases later.last_or_grows hitem hm hnew (group_only inside hitem hbefore) (by omega) with rfl | hgrows
      · exact absurd hstart (show n.span.start ≠ s.skip.position by omega)
      · exact absurd (hstart.trans (Pending.grows_push.1 hgrows).2.2.1.symm)
          (show n.span.start ≠ s.skip.position by omega)

end Quantifiers

/-! ### The group -/

theorem readToken_opening {cs : List Char} (hs : s.rest = '(' :: '?' :: ':' :: cs) :
    readToken s = some (.opening (.group false []), s.drop 3) := by
  have hbump : s.bump.rest = '?' :: ':' :: cs := rest_bump hs
  have hdrop : s.bump.drop 2 = s.drop 3 := by
    simp [drop, bump, hs]
  simp only [readToken, hs, readOpening_eq, advance, skip_eq_self hbump (by decide) (by decide), readOpeningAt_colon hbump,
    hdrop, Option.map_some]

/-- The text from the start of a node on, with a group around the node; `post` is what stands behind it. -/
def enclosedFrom (post text : List Char) : List Char :=
  '(' :: '?' :: ':' :: swapEnd post (')' :: post) text

theorem swap_nil (s : Scanner) (d : Nat) : s.swap [] [] d = { s with position := s.position + d } := by
  simp [Scanner.swap, swapEnd]

theorem seam_enclosedFrom {text : List Char} (htext : text ≠ []) {post : List Char} (hpost : post <:+ text) :
    Seam text (enclosedFrom post text) := by
  refine ⟨.inl rfl, fun h => absurd h htext, ?_⟩
  obtain ⟨u, rfl⟩ := hpost
  rw [enclosedFrom, swapEnd_append]
  simp only [List.length_append, List.length_cons]
  omega

/-- What has been read so far when there is a group around `x`. -/
def Pending.enclose (x : Span) (p : Pending) : Pending :=
  p.map (Ast.enclose x) x.push

/-- Reading goes on behind the group as it does behind the node. -/
theorem Reads.enclose_of_first {s₁ : Scanner} {post : List Char} (h : Reads (p.push n) s₁ ast t) (hitem : m.isItem = true)
    (hm : ast.Has m) (hrepeat : m.mayRepeat = true) (hstarts : Starts p n m s₁.position)
    (hs : s.skip.position = m.span.start) (hreach : s.skip.Reaches s₁) (hspan : m.span.start < m.span.stop)
    (hsees : s₁.Sees m.span.stop post) (hend : m.isRepetition = true → post ≠ [])
    (hfirst : ∀ place body u, Leaves s₁ post →
      Reads ((Pending.begin place).push (n.move 3)) (s₁.swap post (')' :: post) 3) body u →
        Reads (.begin place) (s.skip.swap post (')' :: post) 3) body u) :
    Reads (p.enclose m.span) (s.swap s.skip.rest (enclosedFrom post s.skip.rest) 0) (ast.enclose m.span)
      (t.swap [] [] 4) := by
  obtain ⟨s', hreach', hposition, rfl, hlater, hleaves, hinner⟩ := h.continues rfl hitem hm hstarts hsees hend
  have hne : s.skip.rest ≠ [] := fun hnil => by
    have hlt := hstarts.lt
    have hstart := hstarts.start
    have hrest := hreach.position
    rw [hnil, List.length_nil] at hrest
    omega
  have hseam := seam_enclosedFrom hne (hsees.suffix.trans hreach.suffix)
  have hskip : (s.swap s.skip.rest (enclosedFrom s'.rest s.skip.rest) 0).skip =
      s.skip.swap s.skip.rest (enclosedFrom s'.rest s.skip.rest) 0 :=
    skip_swap (hseam.meets s) List.suffix_rfl
  have hopen : readToken (s.swap s.skip.rest (enclosedFrom s'.rest s.skip.rest) 0).skip =
      some (.opening (.group false []), s.skip.swap s'.rest (')' :: s'.rest) 3) := by
    have hrest : (s.skip.swap s.skip.rest (enclosedFrom s'.rest s.skip.rest) 0).rest =
        enclosedFrom s'.rest s.skip.rest := rest_swap_self rfl
    rw [hskip, readToken_opening hrest, drop, hrest]
    rfl
  have hrest : (s'.swap s'.rest (')' :: s'.rest) 3).rest = ')' :: s'.rest := rest_swap_self rfl
  have hleave : leaveGroup (s.skip.swap s.skip.rest (enclosedFrom s'.rest s.skip.rest) 0)
      (s'.swap s'.rest (')' :: s'.rest) 3) = s'.swap [] [] 4 := by
    rw [leaveGroup, bump, hrest, swap_nil]
    simp only [Scanner.swap, (hreach.trans hreach').verbose]
  have hlater' := hlater.swap (Ast.carries_enclose_behind hspan t.position) seam_nil (Nat.le_of_eq hposition.symm)
    (Nat.le_refl _) List.nil_suffix fun _ => .inl rfl
  rw [Pending.map_push, Ast.enclose_of_span_eq hitem hrepeat rfl, Ast.around] at hlater'
  refine .group hopen (hfirst _ _ _ hleaves (hinner _)) (by rw [hrest, List.head?_cons]) ?_
  rw [Pending.pushGroup, Pending.enclose, hskip, hleave, swap_nil]
  rw [swap_nil] at hlater'
  simpa only [Scanner.swap, Nat.add_zero, hs, hposition] using hlater'

/-! ### What the group begins with -/

theorem skip_swap_skip {post : List Char} (hread : readToken s.skip = some (token, t)) (hne : token ≠ .stop)
    (hpost : post <:+ t.rest) : (s.skip.swap post v d).skip = s.skip.swap post v d := by
  obtain ⟨rfl, -⟩ | ⟨-, c, cs, hs, hreaches⟩ := readToken_cases hread
  · exact absurd rfl hne
  · exact skip_of_head hs (rest_swap hs (rest_bump hs ▸ hpost.trans hreaches.suffix)) rfl

section First

variable {post : List Char} {place : Nat}

/-- An atom is read in its own group. -/
theorem reads_atom_enclosed {a : Atom} (hread : readToken s.skip = some (.atom a, t))
    (hcomment : post = [] → s.skip.rest.head? = some '\\' → '#' ∉ s.skip.bump.bump.rest) (hleaves : Leaves t post)
    (h : Reads ((Pending.begin place).push ((a.ast ⟨s.skip.position, t.position⟩).move 3)) (t.swap post (')' :: post) 3)
      body u) :
    Reads (.begin place) (s.skip.swap post (')' :: post) 3) body u := by
  obtain ⟨hpost, hleaves⟩ := hleaves
  have hskip := @skip_swap_skip s t (')' :: post) 3 _ post hread Token.noConfusion hpost
  have hreadSwap : readToken (s.skip.swap post (')' :: post) 3) = some (.atom a, t.swap post (')' :: post) 3) :=
    readToken_swap hread Token.noConfusion (.inr (.inl rfl)) (Nat.le_succ _) (fun hnil => .inr ⟨⟨a, rfl⟩, hcomment hnil⟩)
      (fun _ _ hbrace => hleaves.imp_right fun hleaves => hleaves.2 hbrace) hpost
  refine .token (hskip.symm ▸ hreadSwap) ?_ h
  rw [hskip, Token.put, Ast.move, Ast.rebuild_ast]
  rfl

/-- A group is read in a further group. -/
theorem reads_group_enclosed {captures : Bool} {changes : FlagChanges} {content : Ast} {w : Scanner}
    (hread : readToken s.skip = some (.opening (.group captures changes), t))
    (inside : Reads (.begin t.position) (t.withFlags changes) content w) (hclose : w.rest.head? = some ')')
    (hleaves : Leaves (leaveGroup s.skip w) post)
    (h : Reads ((Pending.begin place).push
        ((Ast.group ⟨s.skip.position, (leaveGroup s.skip w).position⟩ captures changes content).move 3))
      ((leaveGroup s.skip w).swap post (')' :: post) 3) body u) :
    Reads (.begin place) (s.skip.swap post (')' :: post) 3) body u := by
  obtain ⟨hpost, hleaves⟩ := hleaves
  obtain ⟨cs, hw⟩ := exists_rest_of_head? hclose
  have hcs : (leaveGroup s.skip w).rest = cs := rest_bump hw
  rw [hcs] at hpost hleaves
  have hpostw : post <:+ w.rest := hw ▸ hpost.trans (List.suffix_cons _ _)
  -- If nothing stands behind the group, its own parenthesis is what stays.
  obtain ⟨r, v, hseam, hr, hstop, hsame⟩ : ∃ r v, Seam r v ∧ r <:+ w.rest ∧ (w.rest = r → v = [] ∨ v.head? = some ')') ∧
      ∀ z : Scanner, w.rest <:+ z.rest → z.swap r v 3 = z.swap post (')' :: post) 3 := by
    rcases hleaves with rfl | ⟨hne, -⟩
    · exact ⟨')' :: cs, ')' :: ')' :: cs, ⟨.inr (.inl rfl), fun h => absurd h (List.cons_ne_nil _ _), by simp⟩,
        hw ▸ List.suffix_rfl, fun _ => .inr rfl, fun z hz => swap_cons (hw ▸ hz)⟩
    · exact ⟨post, ')' :: post, seam_close hne, hpostw, fun _ => .inr rfl, fun z _ => rfl⟩
  have hwt : w.rest <:+ t.rest := inside.precedes.suffix
  have hinside := inside.swap (Ast.carries_move 3 0 w.position) hseam (Nat.zero_le _) (Nat.le_refl _) hr hstop
  have hreadSwap := readToken_swap hread Token.noConfusion hseam.closes hseam.length_le
    (fun hnil => .inl (hseam.eq_nil hnil)) (fun a ha => Token.noConfusion ha) (hr.trans hwt) (d := 3)
  rw [hsame _ (hwt.trans (reaches_readToken hread).suffix), hsame _ hwt] at hreadSwap
  rw [hsame (t.withFlags changes) hwt, hsame w List.suffix_rfl] at hinside
  have hskip := @skip_swap_skip s t (')' :: post) 3 _ post hread Token.noConfusion (hpostw.trans hwt)
  rw [← hskip] at hreadSwap
  refine .group hreadSwap hinside (head?_swap hw hpost) ?_
  rw [Pending.pushGroup, hskip, leaveGroup_swap hclose (rest_bump hw ▸ hpost)]
  exact h

end First

theorem rest_bump_bump (s : Scanner) : s.bump.bump.rest = s.rest.drop 2 := by
  obtain ⟨_ | ⟨c, _ | ⟨c', cs⟩⟩, position, verbose, names⟩ := s <;> rfl

/-- What has been read so far begins before a place. -/
structure Pending.Before (p : Pending) (place : Nat) : Prop where
  isItem : ∀ n ∈ p.items, n.isItem = true
  lt : ∀ n, n.isItem = true → Holds p.soFar n → n.span.start < place

theorem Pending.Before.not_holds (h : p.Before m.span.start) (hitem : m.isItem = true) : ¬Holds p.soFar m :=
  fun hm => absurd (h.lt m hitem hm) (Nat.lt_irrefl _)

/-- A group is put around the node that is read next. -/
theorem Reads.enclose_here {post : List Char} (h : Reads p s ast t) (hitem : m.isItem = true) (hm : ast.Has m)
    (hrepeat : m.mayRepeat = true) (hold : p.Before m.span.start) (hs : s.skip.position = m.span.start)
    (hspan : m.span.start < m.span.stop) (hsees : s.skip.Sees m.span.stop post) (hend : m.isRepetition = true → post ≠ [])
    (hcomment : post = [] → s.skip.rest.head? = some '\\' → '#' ∉ s.skip.rest.drop 2) :
    Reads (p.enclose m.span) (s.swap s.skip.rest (enclosedFrom post s.skip.rest) 0) (ast.enclose m.span)
      (t.swap [] [] 4) := by
  have hnew := hold.not_holds hitem
  cases h with
  | stop hread => exact absurd ((Pending.has_close hitem _).1 hm) hnew
  | @token _ p' _ _ s₁ _ token hread hput later =>
      have hreach := reaches_readToken hread
      obtain ⟨-, hlt⟩ := token_bounds hread (Token.ne_stop_of_put hput)
      have hskip : s₁.position ≤ (s₁.withFlags token.changes).skip.position := (s₁.withFlags token.changes).reaches_skip.le
      obtain rfl | ⟨n, hspan', hleaf, -, hatom, rfl⟩ | ⟨kind, q, n, -, rfl, -, rfl⟩ := Token.put_cases hput
      · have hread := later.holds_of_passed hitem hm (by omega) (Pending.not_grows rfl)
        exact absurd ((Pending.holds_bar hitem _).1 hread) hnew
      · have hstop : n.span.stop = s₁.position := by rw [hspan']
        have hstart : n.span.start = m.span.start := by rw [hspan', ← hs]
        obtain ⟨hn, hle⟩ : n.mayRepeat = true ∧ s₁.position ≤ m.span.stop := by
          rcases later.last_or_grows hitem hm hnew (Ast.eq_of_isLeaf hleaf) (by omega) with rfl | hgrows
          · exact ⟨hrepeat, Nat.le_of_eq hstop.symm⟩
          · obtain ⟨-, hn, -, hle⟩ := Pending.grows_push.1 hgrows
            exact ⟨hn, Nat.le_of_lt hle⟩
        obtain ⟨a, rfl, rfl⟩ := hatom hn
        refine later.enclose_of_first hitem hm hrepeat ⟨hn, hstart, hstop, by rw [hstart, ← hs]; exact hlt, hnew,
          Ast.eq_of_isLeaf hleaf⟩ hs hreach hspan (hsees.after hreach.toPrecedes hle) hend
            fun place body u hleaves => reads_atom_enclosed hread ?_ hleaves
        rwa [rest_bump_bump]
      · have hn := hold.lt n (hold.isItem n List.mem_cons_self) (Pending.holds_push.2 (.inr (.self n)))
        rw [Pending.holds_push, not_or] at hnew
        rcases later.last_or_grows hitem hm hnew.1 (repetition_only hnew.2) (by omega) with rfl | hgrows
        · exact absurd hn (Nat.lt_irrefl _)
        · exact absurd (Pending.grows_push.1 hgrows).2.2.1 (Nat.ne_of_lt hn)
  | @group _ content _ _ s₁ u _ captures changes hread inside hclose later =>
      obtain ⟨-, hlt, hinside, hclosed⟩ := group_bounds hread inside hclose
      have hskip := (leaveGroup s.skip u).reaches_skip.le
      have hbefore : m.span.start < s₁.position := by omega
      have hreach : s.skip.Reaches (leaveGroup s.skip u) :=
        ⟨(reaches_readToken hread).toPrecedes.trans
          ((precedes_withFlags s₁ changes).trans (inside.precedes.trans (precedes_leaveGroup s.skip u))), rfl⟩
      have hle : (leaveGroup s.skip u).position ≤ m.span.stop := by
        rcases later.last_or_grows hitem hm hnew (group_only inside hitem hbefore) (by omega) with rfl | hgrows
        · exact Nat.le_refl _
        · exact Nat.le_of_lt (Pending.grows_push.1 hgrows).2.2.2
      exact later.enclose_of_first hitem hm hrepeat ⟨rfl, hs, rfl, show s.skip.position < _ by omega, hnew,
        group_only inside hitem hbefore⟩ hs hreach hspan (hsees.after hreach.toPrecedes hle) hend
          fun place body w hleaves => reads_group_enclosed hread inside hclose hleaves

/-! ### Before the group -/

namespace Pending.Before

variable {place : Nat}

theorem begin (i place : Nat) : (begin i).Before place where
  isItem _ hn := absurd hn List.not_mem_nil
  lt _ _ hn := absurd hn (not_holds_begin i)

theorem push (h : p.Before place) (hitem : n.isItem = true) (hn : ∀ k, k.isItem = true → n.Has k → k.span.start < place) :
    (p.push n).Before place where
  isItem := List.forall_mem_cons.2 ⟨hitem, h.isItem⟩
  lt k hk hholds := (holds_push.1 hholds).elim (h.lt k hk) (hn k hk)

/-- What is put down begins before a place if the token does. -/
theorem put {i j : Nat} (h : p.Before place) (hput : token.put ⟨i, j⟩ p = some p')
    (hi : i < place ∨ ∃ kind, token = .quantifier kind) : p'.Before place := by
  obtain rfl | ⟨n, hspan, hleaf, hitem, hatom, rfl⟩ | ⟨kind, q, n, -, rfl, -, rfl⟩ := Token.put_cases hput
  · exact ⟨fun n hn => absurd hn List.not_mem_nil, fun k hk hholds => h.lt k hk ((holds_bar hk i).1 hholds)⟩
  · have hi : i < place := hi.resolve_right fun ⟨kind, htoken⟩ => by
      subst htoken
      obtain ⟨q, n', -, -, hpush⟩ := quantify_eq_some_iff.1 hput
      obtain ⟨-, rfl⟩ := push_inj hpush
      cases hleaf
    refine h.push hitem fun k _ hk => ?_
    rw [Ast.eq_of_isLeaf hleaf hk, hspan]
    exact hi
  · have hn : n.span.start < place := h.lt n (h.isItem n List.mem_cons_self) (holds_push.2 (.inr (.self n)))
    refine ⟨List.forall_mem_cons.2 ⟨rfl, (List.forall_mem_cons.1 h.isItem).2⟩, fun k hk hholds => ?_⟩
    rcases holds_push.1 hholds with hholds | hk'
    · exact h.lt k hk (holds_push.2 (.inl hholds))
    · cases hk' with
      | self => exact hn
      | operand hk' => exact h.lt k hk (holds_push.2 (.inr hk'))

/-- What is put down with a group begins before a place behind it. -/
theorem pushGroup {captures : Bool} {changes : FlagChanges} (h : p.Before place)
    (hread : readToken s.skip = some (.opening (.group captures changes), t))
    (inside : Reads (.begin t.position) (t.withFlags changes) body u) (hclose : u.rest.head? = some ')')
    (hbehind : (leaveGroup s.skip u).position ≤ place) : (p.pushGroup s.skip u captures changes body).Before place := by
  obtain ⟨-, hlt, htu, hclosed⟩ := group_bounds hread inside hclose
  have hbody : Regex.InOrder t.position u.position [body] := inside.inOrder (.begin _)
  refine h.push rfl fun k hitem hk => ?_
  cases hk with
  | self => exact show s.skip.position < place by omega
  | body hk =>
      have hwithin := (hbody.bounds (holds_singleton.2 hk)).2
      have hspan := Ast.lt_of_isItem (fun j hj => hbody.of_has j (hk.trans hj)) hitem
      omega

end Pending.Before

/-- A node that begins behind all that has been read begins where something is still to be read. -/
theorem Reads.skip_le (h : Reads p s ast t) (hitem : m.isItem = true) (hm : ast.Has m) (hold : p.Before m.span.start) :
    s.skip.position ≤ m.span.start := by
  rcases h.comes hitem hm with hm | hm | ⟨-, n, before, hitems, -, hstart, -⟩
  · exact absurd hm (hold.not_holds hitem)
  · exact hm
  · have hmem : n ∈ p.items := hitems ▸ List.mem_cons_self
    have hn := hold.lt n (hold.isItem n hmem) ⟨n, List.mem_append_right _ (List.mem_reverse.2 hmem), .self n⟩
    omega

/-- It does not begin between a brace and what the brace stands before. -/
theorem Reads.advance_le (h : Reads p s ast t) (hitem : m.isItem = true) (hm : ast.Has m) (hold : p.Before m.span.start)
    (hs : s.rest.head? = some '{') : s.advance.position ≤ m.span.start := by
  cases h with
  | stop hread => exact absurd ((Pending.has_close hitem _).1 hm) (hold.not_holds hitem)
  | @token _ _ _ _ t _ token hread hput later =>
      obtain ⟨hreach, hquantifier⟩ := readToken_brace hread hs
      have hle := later.skip_le hitem hm (hold.put hput (.inr hquantifier))
      exact Nat.le_trans hreach.le (Nat.le_trans (t.withFlags token.changes).reaches_skip.le hle)
  | group hread inside hclose later =>
      obtain ⟨-, kind, heq⟩ := readToken_brace hread hs
      cases heq

section Steps

variable {text : List Char} {w z : Scanner} {captures : Bool} {changes : FlagChanges}

/-- A group is put around a node behind the token that is read next. -/
theorem Reads.enclose_token (hread : readToken s.skip = some (token, t))
    (hput : token.put ⟨s.skip.position, t.position⟩ p = some p') (later : Reads p' (t.withFlags token.changes) ast u)
    (hitem : m.isItem = true) (hm : ast.Has m) (hold : p'.Before m.span.start) (hspan : m.span.start < m.span.stop)
    (hle : t.position ≤ m.span.start) (hseam : Seam text v) (htext : t.Sees m.span.start text)
    (h : Reads (p'.enclose m.span) ((t.withFlags token.changes).swap text v 0) (ast.enclose m.span) z) :
    Reads (p.enclose m.span) (s.swap text v 0) (ast.enclose m.span) z := by
  have hne := Token.ne_stop_of_put hput
  have hbrace (a : Atom) (ha : token = .atom a) (hhead : t.rest.head? = some '{') :
      t.rest = text ∨ text <:+ t.advance.rest := by
    subst ha
    exact .inr (htext.after t.reaches_advance.toPrecedes (later.advance_le hitem hm hold hhead)).suffix
  obtain ⟨hskip, hreadSwap⟩ := hseam.readToken_swap (d := 0) hread hne hbrace htext.suffix
  have hputSwap := Token.put_map (Ast.carries_enclose_before hspan) (Nat.zero_le _) (token_bounds hread hne).2 hle hput
  exact .token hreadSwap (hskip ▸ hputSwap) h

/-- A group is put around a node inside the group that is read next. -/
theorem Reads.enclose_inside (hread : readToken s.skip = some (.opening (.group captures changes), t))
    (inside : Reads (.begin t.position) (t.withFlags changes) body u) (hclose : u.rest.head? = some ')')
    (later : Reads (p.pushGroup s.skip u captures changes body) (leaveGroup s.skip u) ast w)
    (hitem : m.isItem = true) (hm : body.Has m) (hseam : Seam text v) (htext : text <:+ t.rest)
    (h : Reads ((Pending.begin t.position).enclose m.span) ((t.withFlags changes).swap text v 0) (body.enclose m.span)
      (u.swap [] [] 4)) :
    Reads (p.enclose m.span) (s.swap text v 0) (ast.enclose m.span) (w.swap [] [] 4) := by
  obtain ⟨-, hlt, -, hclosed⟩ := group_bounds hread inside hclose
  have hbody : InOrder t.position u.position [body] := inside.inOrder (.begin _)
  obtain ⟨hlower, hupper⟩ := hbody.bounds (holds_singleton.2 hm)
  have hspan := Ast.lt_of_isItem (fun j hj => hbody.of_has j (hm.trans hj)) hitem
  obtain ⟨hskip, hreadSwap⟩ :=
    hseam.readToken_swap (d := 0) hread Token.noConfusion (fun a ha => Token.noConfusion ha) htext
  have hleave : leaveGroup (s.skip.swap text v 0) (u.swap [] [] 4) = (leaveGroup s.skip u).swap [] [] 4 :=
    leaveGroup_swap hclose List.nil_suffix
  have hother : (⟨s.skip.position, (leaveGroup s.skip u).position⟩ : Span) ≠ m.span := fun heq =>
    absurd (congrArg Span.start heq) (show s.skip.position ≠ m.span.start by omega)
  have hlater := later.swap (Ast.carries_enclose_behind hspan w.position) seam_nil (by omega) (Nat.le_refl _)
    List.nil_suffix fun _ => .inl rfl
  rw [Pending.pushGroup, Pending.map_push, Ast.enclose_group hother, Span.stretch,
    push_of_le (show s.skip.position ≤ m.span.start by omega),
    push_of_lt (show m.span.start < (leaveGroup s.skip u).position by omega)] at hlater
  rw [Pending.enclose, Pending.map_begin, push_of_le hlower] at h
  refine .group hreadSwap h (by rwa [swap_nil]) ?_
  rw [Pending.pushGroup, hskip, hleave]
  exact hlater

/-- A group is put around a node behind the group that is read next. -/
theorem Reads.enclose_behind (hread : readToken s.skip = some (.opening (.group captures changes), t))
    (inside : Reads (.begin t.position) (t.withFlags changes) body u) (hclose : u.rest.head? = some ')')
    (hbehind : (leaveGroup s.skip u).position ≤ m.span.start) (hspan : m.span.start < m.span.stop) (hseam : Seam text v)
    (htext : text <:+ u.bump.rest)
    (h : Reads ((p.pushGroup s.skip u captures changes body).enclose m.span) ((leaveGroup s.skip u).swap text v 0)
      (ast.enclose m.span) z) :
    Reads (p.enclose m.span) (s.swap text v 0) (ast.enclose m.span) z := by
  obtain ⟨-, hlt, htu, hclosed⟩ := group_bounds hread inside hclose
  have hu : text <:+ u.rest := htext.trans u.reaches_bump.suffix
  obtain ⟨hskip, hreadSwap⟩ := hseam.readToken_swap (d := 0) hread Token.noConfusion
    (fun a ha => Token.noConfusion ha) (hu.trans inside.precedes.suffix)
  have hbody := inside.swap (Ast.carries_enclose_before hspan) hseam (Nat.zero_le _) (by omega) hu
    fun heq => absurd heq (ne_of_suffix_bump hclose htext)
  rw [Pending.map_begin, push_of_le (show t.position ≤ m.span.start by omega)] at hbody
  have hother : (⟨s.skip.position, (leaveGroup s.skip u).position⟩ : Span) ≠ m.span := fun heq =>
    absurd (congrArg Span.start heq) (show s.skip.position ≠ m.span.start by omega)
  rw [Pending.pushGroup, Pending.enclose, Pending.map_push, Ast.enclose_group hother,
    stretch_before (by omega) hbehind] at h
  obtain ⟨cs, hcs⟩ := exists_rest_of_head? hclose
  refine .group hreadSwap hbody (head?_swap hcs (rest_bump hcs ▸ htext)) ?_
  rw [Pending.pushGroup, hskip, leaveGroup_swap hclose htext]
  exact h

end Steps

/-- **A group around a node is read as such**, whatever stands before it and behind it. -/
theorem Reads.enclose {text post : List Char} (h : Reads p s ast t) (hitem : m.isItem = true) (hm : ast.Has m)
    (hrepeat : m.mayRepeat = true) (hold : p.Before m.span.start) (hspan : m.span.start < m.span.stop)
    (htext : s.Sees m.span.start text) (hpost : s.Sees m.span.stop post) (hend : m.isRepetition = true → post ≠ [])
    (hcomment : post = [] → text.head? = some '\\' → '#' ∉ text.drop 2) :
    Reads (p.enclose m.span) (s.swap text (enclosedFrom post text) 0) (ast.enclose m.span) (t.swap [] [] 4) := by
  have hstop : post <:+ text := by
    have h₁ := htext.position
    have h₂ := hpost.position
    exact List.suffix_of_suffix_length_le hpost.suffix htext.suffix (by omega)
  have hne : text ≠ [] := fun hnil => by
    have h₁ := htext.position
    have h₂ := hpost.position
    rw [hnil, List.length_nil] at h₁
    omega
  have hseam := seam_enclosedFrom hne hstop
  have hstops {place : Nat} (hle : place ≤ m.span.start) : place ≤ m.span.stop := Nat.le_trans hle (Nat.le_of_lt hspan)
  induction h with
  | stop hread => exact absurd ((Pending.has_close hitem _).1 hm) (hold.not_holds hitem)
  | @token p p' ast s t u token hread hput later ih =>
      have hreads : Reads p s ast u := .token hread hput later
      have hle := hreads.skip_le hitem hm hold
      rcases Nat.eq_or_lt_of_le hle with hs | hlt
      · obtain rfl := (htext.after s.reaches_skip.toPrecedes hle).rest_eq hs
        exact hreads.enclose_here hitem hm hrepeat hold hs hspan (hpost.after s.reaches_skip.toPrecedes (hstops hle)) hend
          hcomment
      · have hreach : s.Precedes t := (s.reaches_skip.trans (reaches_readToken hread)).toPrecedes
        have hold' := hold.put hput (.inl hlt)
        have hle' : t.position ≤ m.span.start :=
          Nat.le_trans (t.withFlags token.changes).reaches_skip.le (later.skip_le hitem hm hold')
        have hbehind : s.Precedes (t.withFlags token.changes) := hreach.trans (precedes_withFlags t _)
        exact .enclose_token hread hput later hitem hm hold' hspan hle' hseam (htext.after hreach hle')
          (ih hm hold' (htext.after hbehind hle') (hpost.after hbehind (hstops hle')))
  | @group p body ast s t u w captures changes hread inside hclose later ihInside ihLater =>
      have hreads : Reads p s ast w := .group hread inside hclose later
      have hle := hreads.skip_le hitem hm hold
      rcases Nat.eq_or_lt_of_le hle with hs | hlt
      · obtain rfl := (htext.after s.reaches_skip.toPrecedes hle).rest_eq hs
        exact hreads.enclose_here hitem hm hrepeat hold hs hspan (hpost.after s.reaches_skip.toPrecedes (hstops hle)) hend
          hcomment
      · have hbehind : s.Precedes (t.withFlags changes) :=
          (s.reaches_skip.trans (reaches_readToken hread)).toPrecedes.trans (precedes_withFlags t _)
        have hcomes := later.comes hitem hm
        rw [Pending.pushGroup, Pending.holds_push, Pending.grows_push] at hcomes
        rcases hcomes with (hm' | hm') | hle' | ⟨-, -, hstart, -⟩
        · exact absurd hm' (hold.not_holds hitem)
        · cases hm' with
          | self => exact absurd hlt (Nat.lt_irrefl _)
          | body hm' =>
              have hle' := inside.le_start hitem hm'
              have htext' := htext.after hbehind hle'
              exact .enclose_inside hread inside hclose later hitem hm' hseam htext'.suffix
                (ihInside hm' (.begin _ _) htext' (hpost.after hbehind (hstops hle')))
        · have hbefore := Nat.le_trans (leaveGroup s.skip u).reaches_skip.le hle'
          have hbehind' : s.Precedes (leaveGroup s.skip u) :=
            hbehind.trans (inside.precedes.trans (precedes_leaveGroup s.skip u))
          have htext' := htext.after hbehind' hbefore
          exact .enclose_behind hread inside hclose hbefore hspan hseam htext'.suffix
            (ihLater hm (hold.pushGroup hread inside hclose hbefore) htext' (hpost.after hbehind' (hstops hbefore)))
        · exact absurd hstart (Nat.ne_of_lt hlt)

/-! ### Whole patterns -/

/-- The pattern with a group around a part of it. -/
def Span.encloseIn (x : Span) (pattern : String) : String :=
  let cs := pattern.toList
  String.ofList (cs.take x.start ++ "(?:".toList ++ (cs.take x.stop).drop x.start ++ ")".toList ++ cs.drop x.stop)

theorem drop_eq_append {i j : Nat} (h : i ≤ j) (cs : List Char) : cs.drop i = (cs.take j).drop i ++ cs.drop j := by
  have hsplit := List.take_append_drop (j - i) (cs.drop i)
  rw [List.drop_drop, ← List.drop_take, Nat.add_sub_cancel' h] at hsplit
  exact hsplit.symm

theorem toList_encloseIn {x : Span} (hx : x.start ≤ x.stop) (pattern : String) : (x.encloseIn pattern).toList =
    pattern.toList.take x.start ++ enclosedFrom (pattern.toList.drop x.stop) (pattern.toList.drop x.start) := by
  have hsplit := drop_eq_append hx pattern.toList
  rw [Span.encloseIn, String.toList_ofList, enclosedFrom, hsplit, swapEnd_append]
  simp

theorem swap_ofString {x : Span} {pattern : String} (hx : x.start ≤ x.stop) (hpattern : x.stop ≤ pattern.length) :
    (Scanner.ofString pattern).swap (pattern.toList.drop x.start)
      (enclosedFrom (pattern.toList.drop x.stop) (pattern.toList.drop x.start)) 0 = .ofString (x.encloseIn pattern) := by
  have htake : pattern.toList.length - (pattern.toList.length - x.start) = x.start := by
    rw [String.length_toList]
    omega
  rw [Scanner.ofString, Scanner.swap, swapEnd, Scanner.ofString, toList_encloseIn hx, List.length_drop, htake]

/-- No comment runs into a parenthesis behind `x`. Blanks and comments are part of a node in an escape only, so it takes
an escape at the end of the pattern. -/
def Span.EndsClear (x : Span) (pattern : String) : Prop :=
  x.stop = pattern.length → (pattern.toList.drop x.start).head? = some '\\' → '#' ∉ pattern.toList.drop (x.start + 2)

/-- **A group around a part of a pattern that a node was read from is a group around the node.** The nesting must stay
within its limit, and no comment may run into the parenthesis that closes the group. -/
theorem Ast.read?_encloseIn {pattern : String} (hread : Ast.read? pattern = some ast) (hitem : m.isItem = true)
    (hm : ast.Has m) (hrepeat : m.mayRepeat = true) (hend : m.isRepetition = true → m.span.stop < pattern.length)
    (hclear : m.span.EndsClear pattern) (hdepth : (ast.enclose m.span).depth ≤ deepest) :
    Ast.read? (m.span.encloseIn pattern) = some (ast.enclose m.span) := by
  obtain ⟨t, hreads, hrest, -⟩ := Ast.read?_eq_some_iff.1 hread
  have horder := Ast.inOrder hread
  have hstop := (horder.bounds (holds_singleton.2 hm)).2
  have hspan := Ast.lt_of_isItem (fun j hj => horder.of_has j (hm.trans hj)) hitem
  have hsees {place : Nat} (hplace : place ≤ pattern.length) :
      (Scanner.ofString pattern).Sees place (pattern.toList.drop place) := by
    refine ⟨List.drop_suffix _ _, ?_⟩
    simp only [Scanner.ofString, List.length_drop, String.length_toList]
    omega
  have hpost : pattern.toList.drop m.span.stop = [] ↔ m.span.stop = pattern.length := by
    rw [List.drop_eq_nil_iff, String.length_toList]
    omega
  have henclosed := hreads.enclose hitem hm hrepeat (.begin _ _) hspan (hsees (by omega)) (hsees hstop)
    (fun h hnil => absurd (hpost.1 hnil) (Nat.ne_of_lt (hend h)))
    (fun hnil hhead => by rw [List.drop_drop]; exact hclear (hpost.1 hnil) hhead)
  rw [swap_ofString (Nat.le_of_lt hspan) hstop, swap_nil, Pending.enclose, Pending.map_begin,
    push_of_le (Nat.zero_le _)] at henclosed
  exact Ast.read?_eq_some_iff.2 ⟨_, henclosed, hrest, hdepth⟩

end Attest.Regex

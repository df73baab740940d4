import Attest.Proofs.Regex.Locality.Opening

/-!
The reader of alternatives as a relation. It goes from token to token: a token is put to what has been read so far, and
only a group is read on its own first. A derivation of `Reads` has one step for each token, so that what holds of a token
and of the few ways to put it down holds of reading by induction on the derivation. The bound on the steps of the reader
is not seen in it: the length of the text is always enough.
-/

namespace Attest.Regex

open Scanner

/-- What is read as a node of its own, without the place that it was read from. -/
inductive Atom
  | literal (literal : Literal)
  | dot
  | assertion (kind : Assertion)
  | charClass (body : ClassNode)

def Atom.ast (span : Span) : Atom → Ast
  | .literal l => .literal span l
  | .dot => .dot span
  | .assertion kind => .assertion span kind
  | .charClass body => .charClass span body

def Escape.atom : Escape → Atom
  | .literal l => .literal l
  | .charClass body => .charClass body
  | .assertion kind => .assertion kind

inductive Token
  | stop
  | bar
  | atom (atom : Atom)
  | opening (opening : Opening)
  | quantifier (kind : RepetitionKind)

/-- The next token; the end of alternatives takes nothing. -/
def readToken (s : Scanner) : Option (Token × Scanner) :=
  match s.rest with
  | [] => some (.stop, s)
  | ')' :: _ => some (.stop, s)
  | '|' :: _ => some (.bar, s.bump)
  | '(' :: _ => (readOpening s).map fun (o, t) => (.opening o, t)
  | '[' :: _ => (readBracket s).map fun (body, t) => (.atom (.charClass body), t)
  | '?' :: _ => some (.quantifier .zeroOrOne, passSign s)
  | '*' :: _ => some (.quantifier .zeroOrMore, passSign s)
  | '+' :: _ => some (.quantifier .oneOrMore, passSign s)
  | '{' :: _ => (readRange s).map fun (range, t) => (.quantifier (.range range), t)
  | '\\' :: _ => (Escape.read s).map fun (e, t) => (.atom e.atom, t)
  | '.' :: _ => some (.atom .dot, s.bump)
  | '^' :: _ => some (.atom (.assertion .lineStart), s.bump)
  | '$' :: _ => some (.atom (.assertion .lineEnd), s.bump)
  | c :: _ => some (.atom (.literal ⟨c, false⟩), s.bump)

/-- Puts a token that was read from `span` to what has been read so far. A group is not put down before its content is
read. -/
def Token.put (span : Span) (p : Pending) : Token → Option Pending
  | .stop => none
  | .bar => some (p.bar span.start)
  | .atom a => some (p.push (a.ast span))
  | .opening (.directive changes) => some (p.push (.flags span changes))
  | .opening (.group _ _) => none
  | .quantifier kind => p.quantify kind span.stop

/-- The flags that a token changes. -/
def Token.changes : Token → FlagChanges
  | .opening (.directive changes) => changes
  | _ => []

/-- The scanner behind a group: its flags count no more. -/
def leaveGroup (s u : Scanner) : Scanner :=
  { u.bump with verbose := s.verbose }

/-- What is put down with a group that begins at the scanner `s` and whose content ends at the scanner `u`. -/
def Pending.pushGroup (p : Pending) (s u : Scanner) (captures : Bool) (changes : FlagChanges) (body : Ast) : Pending :=
  p.push (.group ⟨s.position, (leaveGroup s u).position⟩ captures changes body)

/-- From `p` and the scanner `s` the tree `ast` is read up to the scanner `t`. -/
inductive Reads : Pending → Scanner → Ast → Scanner → Prop
  | stop {p : Pending} {s t : Scanner} (h : readToken s.skip = some (.stop, t)) : Reads p s (p.close t.position) t
  | token {p p' : Pending} {ast : Ast} {s t u : Scanner} {token : Token} (h : readToken s.skip = some (token, t))
      (hput : token.put ⟨s.skip.position, t.position⟩ p = some p') (later : Reads p' (t.withFlags token.changes) ast u) :
      Reads p s ast u
  | group {p : Pending} {body ast : Ast} {s t u w : Scanner} {captures : Bool} {changes : FlagChanges}
      (h : readToken s.skip = some (.opening (.group captures changes), t))
      (inside : Reads (.begin t.position) (t.withFlags changes) body u) (hclose : u.rest.head? = some ')')
      (later : Reads (p.pushGroup s.skip u captures changes body) (leaveGroup s.skip u) ast w) : Reads p s ast w

variable {s t u : Scanner} {token : Token} {p p' : Pending} {ast : Ast}

/-! ### Tokens -/

/-- A token takes a character at least, unless the end has come. -/
theorem readToken_cases (h : readToken s = some (token, t)) :
    (token = .stop ∧ s = t ∧ (s.rest = [] ∨ s.rest.head? = some ')')) ∨
      token ≠ .stop ∧ ∃ c cs, s.rest = c :: cs ∧ s.bump.Reaches t := by
  have hstep {c : Char} {cs : List Char} (hs : s.rest = c :: cs) {o : Token} (ho : o ≠ .stop) {w : Scanner}
      (h : some (o, w) = some (token, t)) (hw : s.bump.Reaches w) :
      (token = .stop ∧ s = t ∧ (s.rest = [] ∨ s.rest.head? = some ')')) ∨
        token ≠ .stop ∧ ∃ c cs, s.rest = c :: cs ∧ s.bump.Reaches t := by
    obtain ⟨rfl, rfl⟩ := Prod.mk.inj (Option.some.inj h)
    exact .inr ⟨ho, c, cs, hs, hw⟩
  rw [readToken] at h
  split at h
  next hs =>
    obtain ⟨rfl, rfl⟩ := Prod.mk.inj (Option.some.inj h)
    exact .inl ⟨rfl, rfl, .inl hs⟩
  next hs =>
    obtain ⟨rfl, rfl⟩ := Prod.mk.inj (Option.some.inj h)
    exact .inl ⟨rfl, rfl, .inr (by rw [hs, List.head?_cons])⟩
  next hs => exact hstep hs Token.noConfusion h (.refl _)
  next hs =>
    obtain ⟨⟨o, w⟩, hread, h⟩ := Option.map_eq_some_iff.1 h
    exact hstep hs Token.noConfusion (congrArg some h) (s.bump.reaches_skip.trans (reaches_readOpening hread))
  next hs =>
    obtain ⟨⟨body, w⟩, hread, h⟩ := Option.map_eq_some_iff.1 h
    exact hstep hs Token.noConfusion (congrArg some h) (s.bump.reaches_skip.trans (reaches_readBracket hread))
  next hs => exact hstep hs Token.noConfusion h (reaches_passMark _)
  next hs => exact hstep hs Token.noConfusion h (reaches_passMark _)
  next hs => exact hstep hs Token.noConfusion h (reaches_passMark _)
  next hs =>
    obtain ⟨⟨range, w⟩, hread, h⟩ := Option.map_eq_some_iff.1 h
    exact hstep hs Token.noConfusion (congrArg some h) (s.bump.reaches_skip.trans (reaches_readRange hread))
  next hs =>
    obtain ⟨⟨e, w⟩, hread, h⟩ := Option.map_eq_some_iff.1 h
    exact hstep hs Token.noConfusion (congrArg some h) (s.bump.reaches_bump.trans (Escape.reaches_read hread))
  all_goals
    next hs => exact hstep hs Token.noConfusion h (.refl _)

theorem reaches_readToken (h : readToken s = some (token, t)) : s.Reaches t := by
  obtain ⟨-, rfl, -⟩ | ⟨-, c, cs, -, hreaches⟩ := readToken_cases h
  · exact .refl _
  · exact s.reaches_bump.trans hreaches

theorem length_readToken (h : readToken s = some (token, t)) (htoken : token ≠ .stop) : t.rest.length < s.rest.length := by
  obtain ⟨rfl, -⟩ | ⟨-, c, cs, hs, hreaches⟩ := readToken_cases h
  · exact absurd rfl htoken
  · exact Nat.lt_of_le_of_lt hreaches.suffix.length_le (length_bump hs)

theorem Token.ne_stop_of_put {span : Span} (h : token.put span p = some p') : token ≠ .stop := by
  rintro rfl
  cases h

theorem precedes_withFlags (s : Scanner) (changes : FlagChanges) : s.Precedes (s.withFlags changes) :=
  ⟨List.suffix_rfl, rfl⟩

theorem precedes_leaveGroup (s u : Scanner) : u.Precedes (leaveGroup s u) :=
  ⟨u.reaches_bump.suffix, u.reaches_bump.position⟩

theorem Reads.precedes (h : Reads p s ast t) : s.Precedes t := by
  induction h with
  | @stop p s t hread => exact (s.reaches_skip.trans (reaches_readToken hread)).toPrecedes
  | @token p p' ast s t u token hread hput later ih =>
      exact (s.reaches_skip.trans (reaches_readToken hread)).toPrecedes.trans ((precedes_withFlags t _).trans ih)
  | @group p body ast s t u w captures changes hread inside hclose later ihInside ihLater =>
      have hinside := (s.reaches_skip.trans (reaches_readToken hread)).toPrecedes.trans
        ((precedes_withFlags t _).trans ihInside)
      exact (hinside.trans (precedes_leaveGroup s.skip u)).trans ihLater

/-- A token begins behind the blanks and takes something. -/
theorem token_bounds (h : readToken s.skip = some (token, t)) (htoken : token ≠ .stop) :
    s.position ≤ s.skip.position ∧ s.skip.position < t.position :=
  ⟨s.reaches_skip.le, (reaches_readToken h).lt (length_readToken h htoken)⟩

/-- A group begins behind the blanks, its content behind its parenthesis, and another one closes it behind that. -/
theorem group_bounds {captures : Bool} {changes : FlagChanges} {q : Pending} {body : Ast}
    (h : readToken s.skip = some (.opening (.group captures changes), t)) (inside : Reads q (t.withFlags changes) body u) (hclose : u.rest.head? = some ')') :
    s.position ≤ s.skip.position ∧ s.skip.position < t.position ∧ t.position ≤ u.position ∧
      u.position < (leaveGroup s.skip u).position := by
  obtain ⟨hle, hlt⟩ := token_bounds h Token.noConfusion
  obtain ⟨cs, hu⟩ := exists_rest_of_head? hclose
  exact ⟨hle, hlt, inside.precedes.le, (precedes_leaveGroup s.skip u).lt (length_bump hu)⟩

/-! ### The relation and the reader -/

/-- One step of the reader. -/
theorem readAlternatives_succ (fuel : Nat) (p : Pending) (s : Scanner) :
    readAlternatives (fuel + 1) p s = (do
      let (token, t) ← readToken s.skip
      match token with
      | .stop => some (p.close t.position, t)
      | .opening (.group captures changes) =>
          let (body, u) ← readAlternatives fuel (.begin t.position) (t.withFlags changes)
          guard (u.rest.head? = some ')')
          readAlternatives fuel (p.pushGroup s.skip u captures changes body) (leaveGroup s.skip u)
      | token =>
          readAlternatives fuel (← token.put ⟨s.skip.position, t.position⟩ p) (t.withFlags token.changes)) := by
  rw [readAlternatives]
  generalize s.skip = s
  split
  case h_4 hs =>
    simp only [readToken, hs]
    cases readOpening s with
    | none => rfl
    | some read => obtain ⟨_ | _, t⟩ := read <;> rfl
  case h_5 hs =>
    simp only [readToken, hs]
    cases readBracket s <;> rfl
  case h_9 hs =>
    simp only [readToken, hs]
    cases readRange s <;> rfl
  case h_10 hs =>
    simp only [readToken, hs]
    cases Escape.read s with
    | none => rfl
    | some read => obtain ⟨_ | _ | _, t⟩ := read <;> rfl
  all_goals
    next hs => simp only [readToken, hs]; rfl

theorem reads_of_readAlternatives {fuel : Nat} (h : readAlternatives fuel p s = some (ast, t)) : Reads p s ast t := by
  induction fuel generalizing p s ast t with
  | zero => cases h
  | succ fuel ih =>
      rw [readAlternatives_succ] at h
      obtain ⟨⟨token, u⟩, hread, h⟩ := Option.bind_eq_some_iff.1 h
      dsimp only at h
      split at h
      next =>
        obtain ⟨rfl, rfl⟩ := Prod.mk.inj (Option.some.inj h)
        exact .stop hread
      next =>
        simp only [bind, Option.bind_eq_some_iff, Option.guard_eq_some', Prod.exists] at h
        obtain ⟨body, w, hinside, -, hclose, hlater⟩ := h
        exact .group hread (ih hinside) hclose (ih hlater)
      next =>
        obtain ⟨p', hput, hlater⟩ := Option.bind_eq_some_iff.1 h
        exact .token hread hput (ih hlater)

/-- As many steps as there are characters are enough. -/
theorem Reads.readAlternatives (h : Reads p s ast t) {fuel : Nat} (hfuel : s.rest.length < fuel) :
    readAlternatives fuel p s = some (ast, t) := by
  induction h generalizing fuel with
  | @stop p s t hread =>
      obtain ⟨fuel, rfl⟩ := Nat.exists_eq_succ_of_ne_zero (Nat.ne_zero_of_lt hfuel)
      rw [readAlternatives_succ, hread]
      rfl
  | @token p p' ast s t u token hread hput later ih =>
      obtain ⟨fuel, rfl⟩ := Nat.exists_eq_succ_of_ne_zero (Nat.ne_zero_of_lt hfuel)
      have hshorter := length_readToken hread (Token.ne_stop_of_put hput)
      have hskip := s.length_skip
      have hlater := @ih fuel (show t.rest.length < fuel by omega)
      rw [readAlternatives_succ, hread]
      cases token with
      | stop => cases hput
      | opening opening =>
          cases opening with
          | group => cases hput
          | directive => simpa [hput] using hlater
      | bar => simpa [hput] using hlater
      | atom => simpa [hput] using hlater
      | quantifier => simpa [hput] using hlater
  | @group p body ast s t u w captures changes hread inside hclose later ihInside ihLater =>
      obtain ⟨fuel, rfl⟩ := Nat.exists_eq_succ_of_ne_zero (Nat.ne_zero_of_lt hfuel)
      have hshorter := length_readToken hread Token.noConfusion
      have hskip := s.length_skip
      have hinside := inside.precedes.suffix.length_le
      have hleave := (precedes_leaveGroup s.skip u).suffix.length_le
      have hbody := @ihInside fuel (show t.rest.length < fuel by omega)
      have hlater := @ihLater fuel (by simp only [Scanner.withFlags] at hinside; omega)
      rw [readAlternatives_succ, hread]
      simpa [hbody, hclose] using hlater

theorem Ast.read?_eq_some_iff {pattern : String} : Ast.read? pattern = some ast ↔
    ∃ s, Reads (.begin 0) (.ofString pattern) ast s ∧ s.rest = [] ∧ ast.depth ≤ deepest := by
  simp only [Ast.read?, bind, Option.bind_eq_some_iff, Option.guard_eq_some', pure, Option.some.injEq, Prod.exists]
  constructor
  · rintro ⟨ast', s, hread, -, hend, -, hdepth, rfl⟩
    exact ⟨s, reads_of_readAlternatives hread, hend, hdepth⟩
  · rintro ⟨s, hreads, hend, hdepth⟩
    refine ⟨ast, s, hreads.readAlternatives ?_, (), hend, (), hdepth, rfl⟩
    rw [Scanner.ofString, String.length_toList]
    exact Nat.lt_succ_self _

end Attest.Regex

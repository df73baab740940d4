import Attest.Regex.Escape
import Attest.Proofs.Regex.Locality.Scanner

/-!
Escapes do not depend on what comes behind them, but for one case: a word boundary with a count behind it begins like a
word assertion that has a name in braces, and to tell them apart its reader looks at the first character in the
braces.
-/

namespace Attest.Regex

namespace Escape

variable {s t : Scanner} {r v : List Char} {d : Nat}

theorem reaches_readHexDigits {n : Nat} {ds : List Char} (h : readHexDigits n s = some (ds, t)) : s.Reaches t := by
  induction n generalizing s ds with
  | zero =>
      obtain ⟨rfl, rfl⟩ := Prod.mk.inj (Option.some.inj h)
      exact .refl _
  | succ n ih =>
      rw [readHexDigits] at h
      split at h
      · cases h
      next c cs hs =>
        simp only [bind, Option.bind_eq_some_iff, Option.guard_eq_some', pure, Option.some.injEq, Prod.mk.injEq] at h
        obtain ⟨-, -, ⟨ds', t'⟩, hrest, rfl, rfl⟩ := h
        exact s.reaches_advance.trans (ih hrest)

theorem exists_rest_of_readHexDigits {n : Nat} {ds : List Char} (h : readHexDigits (n + 1) s = some (ds, t)) :
    ∃ c cs, s.rest = c :: cs ∧ isHexDigit c = true ∧ ∀ {r}, r <:+ t.rest → r <:+ s.advance.rest := by
  rw [readHexDigits] at h
  split at h
  · cases h
  next c cs hs =>
    simp only [bind, Option.bind_eq_some_iff, Option.guard_eq_some', pure, Option.some.injEq, Prod.mk.injEq] at h
    obtain ⟨-, hc, ⟨ds', t'⟩, hrest, rfl, rfl⟩ := h
    exact ⟨c, cs, hs, hc, fun hr => hr.trans (reaches_readHexDigits hrest).suffix⟩

theorem readHexDigits_swap {n : Nat} {ds : List Char} (h : readHexDigits n s = some (ds, t)) (hmeets : s.Meets r v)
    (hr : r <:+ t.rest) : readHexDigits n (s.swap r v d) = some (ds, t.swap r v d) := by
  induction n generalizing s ds with
  | zero =>
      obtain ⟨rfl, rfl⟩ := Prod.mk.inj (Option.some.inj h)
      rfl
  | succ n ih =>
      rw [readHexDigits] at h
      split at h
      · cases h
      next c cs hs =>
        simp only [bind, Option.bind_eq_some_iff, Option.guard_eq_some', pure, Option.some.injEq, Prod.mk.injEq] at h
        obtain ⟨-, hc, ⟨ds', t'⟩, hrest, rfl, rfl⟩ := h
        have hadvance : r <:+ s.advance.rest := hr.trans (reaches_readHexDigits hrest).suffix
        rw [readHexDigits, Scanner.rest_swap hs (Scanner.suffix_of_advance hs hadvance)]
        simp only
        rw [Scanner.advance_swap hs (hmeets.mono s.reaches_bump.suffix) hadvance,
          ih hrest (hmeets.mono s.reaches_advance.suffix)]
        simp [hc]

theorem readNumbered_eq_some_iff {count : Nat} {l : Literal} : readNumbered count s = some (l, t) ↔
    (∃ ds u c, s.rest.head? = some '{' ∧ s.advance.takeSpaced isHexDigit = (ds, u) ∧ u.rest.head? = some '}' ∧
      ds ≠ [] ∧ charOfHex? ds = some c ∧ ⟨c, false⟩ = l ∧ u.advance = t) ∨
    ∃ ds c, s.rest.head? ≠ some '{' ∧ readHexDigits count s = some (ds, t) ∧ charOfHex? ds = some c ∧
      ⟨c, count = 2⟩ = l := by
  rw [readNumbered]
  by_cases hbrace : s.rest.head? = some '{'
  · cases htake : s.advance.takeSpaced isHexDigit with
    | mk ds u =>
        simp [hbrace, Option.bind_eq_some_iff, and_assoc]
  · simp [hbrace, Option.bind_eq_some_iff]

theorem reaches_readNumbered {count : Nat} {l : Literal} (h : readNumbered count s = some (l, t)) : s.Reaches t := by
  rcases readNumbered_eq_some_iff.1 h with ⟨ds, u, c, -, htake, -, -, -, -, rfl⟩ | ⟨ds, c, -, hdigits, -, -⟩
  · have hreaches := Scanner.reaches_takeSpaced isHexDigit s.advance
    rw [htake] at hreaches
    exact (s.reaches_advance.trans hreaches).trans u.reaches_advance
  · exact reaches_readHexDigits hdigits

theorem readNumbered_swap {n : Nat} {l : Literal} (h : readNumbered (n + 1) s = some (l, t)) (hmeets : s.Meets r v)
    (hr : r <:+ t.rest) : readNumbered (n + 1) (s.swap r v d) = some (l, t.swap r v d) := by
  refine readNumbered_eq_some_iff.2 ((readNumbered_eq_some_iff.1 h).imp ?_ ?_)
  · rintro ⟨ds, u, c, hbrace, htake, hclose, hds, hc, rfl, rfl⟩
    obtain ⟨cs, hs⟩ := Scanner.exists_rest_of_head? hbrace
    obtain ⟨cs', hu⟩ := Scanner.exists_rest_of_head? hclose
    have hreaches := Scanner.reaches_takeSpaced isHexDigit s.advance
    rw [htake] at hreaches
    have hcs' := Scanner.suffix_of_advance hu hr
    have hadvance : r <:+ s.advance.rest := (hr.trans u.reaches_advance.suffix).trans hreaches.suffix
    have hmeetsU : u.bump.Meets r v :=
      hmeets.mono ((u.reaches_bump.suffix.trans hreaches.suffix).trans s.reaches_advance.suffix)
    refine ⟨ds, u.swap r v d, c, ?_, ?_, Scanner.head?_swap hu hcs', hds, hc, rfl, ?_⟩
    · exact Scanner.head?_swap hs (Scanner.suffix_of_advance hs hadvance)
    · rw [Scanner.advance_swap hs (hmeets.mono s.reaches_bump.suffix) hadvance]
      exact Scanner.takeSpaced_swap htake hu hcs'
    · exact Scanner.advance_swap hu hmeetsU hr
  · rintro ⟨ds, c, hbrace, hdigits, hc, rfl⟩
    obtain ⟨c', cs, hs, -, hadvance⟩ := exists_rest_of_readHexDigits hdigits
    refine ⟨ds, c, ?_, readHexDigits_swap hdigits hmeets hr, hc, rfl⟩
    rw [Scanner.head?_swap hs (Scanner.suffix_of_advance hs (hadvance hr))]
    rwa [hs] at hbrace

theorem readProperty_eq_some_iff {query : PropertyQuery} : readProperty s = some (query, t) ↔
    (∃ text u, s.rest.head? = some '{' ∧ s.advance.takeSpaced (· != '}') = (text, u) ∧ u.rest.head? = some '}' ∧
      propertyQuery text = query ∧ u.bump = t) ∨
    ∃ c cs, s.rest = c :: cs ∧ c ≠ '{' ∧ c ≠ '\\' ∧ .name (String.singleton c) = query ∧ s.advance = t := by
  rw [readProperty]
  split
  next hs => simp [hs]
  next cs hs =>
    cases htake : s.advance.takeSpaced (· != '}') with
    | mk text u => simp [hs, Option.bind_eq_some_iff]
  next cs hs => simp [hs]
  next c cs hbrace hslash hs => simp [hs, show c ≠ '{' from hbrace, show c ≠ '\\' from hslash]

theorem reaches_readProperty {query : PropertyQuery} (h : readProperty s = some (query, t)) : s.Reaches t := by
  rcases readProperty_eq_some_iff.1 h with ⟨text, u, -, htake, -, -, rfl⟩ | ⟨c, cs, -, -, -, -, rfl⟩
  · have hreaches := Scanner.reaches_takeSpaced (· != '}') s.advance
    rw [htake] at hreaches
    exact (s.reaches_advance.trans hreaches).trans u.reaches_bump
  · exact s.reaches_advance

theorem readProperty_swap {query : PropertyQuery} (h : readProperty s = some (query, t)) (hmeets : s.Meets r v)
    (hr : r <:+ t.rest) : readProperty (s.swap r v d) = some (query, t.swap r v d) := by
  refine readProperty_eq_some_iff.2 ((readProperty_eq_some_iff.1 h).imp ?_ ?_)
  · rintro ⟨text, u, hbrace, htake, hclose, rfl, rfl⟩
    obtain ⟨cs, hs⟩ := Scanner.exists_rest_of_head? hbrace
    obtain ⟨cs', hu⟩ := Scanner.exists_rest_of_head? hclose
    have hreaches := Scanner.reaches_takeSpaced (· != '}') s.advance
    rw [htake] at hreaches
    have hcs' : r <:+ cs' := Scanner.rest_bump hu ▸ hr
    have hadvance : r <:+ s.advance.rest := (hr.trans u.reaches_bump.suffix).trans hreaches.suffix
    refine ⟨text, u.swap r v d, ?_, ?_, Scanner.head?_swap hu hcs', rfl, Scanner.bump_swap hu hcs'⟩
    · exact Scanner.head?_swap hs (Scanner.suffix_of_advance hs hadvance)
    · rw [Scanner.advance_swap hs (hmeets.mono s.reaches_bump.suffix) hadvance]
      exact Scanner.takeSpaced_swap htake hu hcs'
  · rintro ⟨c, cs, hs, hbrace, hslash, rfl, rfl⟩
    exact ⟨c, _, Scanner.rest_swap hs (Scanner.suffix_of_advance hs hr), hbrace, hslash, rfl,
      Scanner.advance_swap hs (hmeets.mono s.reaches_bump.suffix) hr⟩

/-- The assertions with a name. -/
def namedAssertion? (name : String) : Option Assertion :=
  match name with
  | "start" => some .wordStart
  | "end" => some .wordEnd
  | "start-half" => some .wordStartHalf
  | "end-half" => some .wordEndHalf
  | _ => none

def isNameChar (c : Char) : Bool :=
  c.isAlpha || c == '-'

theorem readWordAssertion_of_brace {cs : List Char} (hs : s.rest = '{' :: cs) : readWordAssertion s = (do
    guard (s.advance.rest ≠ [])
    let (name, t) := s.advance.takeSpaced isNameChar
    if name = [] then pure (.wordBoundary, s)
    else
      guard (t.rest.head? = some '}')
      Option.map (·, t.bump) (namedAssertion? (String.ofList name))) := by
  have hnamed (name : String) (t : Scanner) : (namedAssertion? name).map (·, t) =
      match name with
      | "start" => pure (.wordStart, t)
      | "end" => pure (.wordEnd, t)
      | "start-half" => pure (.wordStartHalf, t)
      | "end-half" => pure (.wordEndHalf, t)
      | _ => none := by
    unfold namedAssertion?
    grind
  rw [readWordAssertion]
  simp only [hs, hnamed]
  rfl

theorem readWordAssertion_of_no_brace (hs : s.rest.head? ≠ some '{') :
    readWordAssertion s = some (.wordBoundary, s) := by
  rw [readWordAssertion]
  split
  next hs' => rw [hs'] at hs; exact absurd rfl hs
  next => rfl

/-- A word assertion with a name in braces, or one without, which leaves everything. -/
theorem readWordAssertion_eq_some_iff {kind : Assertion} : readWordAssertion s = some (kind, t) ↔
    (∃ name u, s.rest.head? = some '{' ∧ s.advance.takeSpaced isNameChar = (name, u) ∧ name ≠ [] ∧
      s.advance.rest ≠ [] ∧ u.rest.head? = some '}' ∧ namedAssertion? (String.ofList name) = some kind ∧ u.bump = t) ∨
    (s.rest.head? = some '{' → s.advance.rest ≠ [] ∧ (s.advance.takeSpaced isNameChar).1 = []) ∧
      .wordBoundary = kind ∧ s = t := by
  by_cases hbrace : s.rest.head? = some '{'
  · obtain ⟨cs, hs⟩ := Scanner.exists_rest_of_head? hbrace
    rw [readWordAssertion_of_brace hs]
    cases htake : s.advance.takeSpaced isNameChar with
    | mk name u => by_cases hname : name = [] <;> simp [hbrace, hname, Option.bind_eq_some_iff, and_assoc]
  · simp [readWordAssertion_of_no_brace hbrace, hbrace]

theorem reaches_readWordAssertion {kind : Assertion} (h : readWordAssertion s = some (kind, t)) : s.Reaches t := by
  rcases readWordAssertion_eq_some_iff.1 h with ⟨name, u, -, htake, -, -, -, -, rfl⟩ | ⟨-, -, rfl⟩
  · have hreaches := Scanner.reaches_takeSpaced isNameChar s.advance
    rw [htake] at hreaches
    exact (s.reaches_advance.trans hreaches).trans u.reaches_bump
  · exact .refl _

/-- Whether an end may stand for another one where the next character is looked at but not passed: a parenthesis begins
it, or there is none. -/
def Closes (r v : List Char) : Prop :=
  v.head? = some '(' ∨ v.head? = some ')' ∨ r = [] ∧ v = []

theorem Closes.head?_ne_brace (h : Closes r v) : v.head? ≠ some '{' := by
  rcases h with hv | hv | ⟨-, rfl⟩
  · simp [hv]
  · simp [hv]
  · simp

/-- A text that goes on begins with a parenthesis, if another one ends there. -/
theorem Closes.exists_cons (h : Closes r v) (hr : r ≠ []) : ∃ c cs, v = c :: cs ∧ isNameChar c = false := by
  obtain ⟨c, hc, hname⟩ : ∃ c, v.head? = some c ∧ isNameChar c = false := by
    rcases h with hv | hv | ⟨hnil, -⟩
    · exact ⟨_, hv, by decide⟩
    · exact ⟨_, hv, by decide⟩
    · exact absurd hnil hr
  exact ⟨c, v.tail, List.eq_cons_of_mem_head? hc, hname⟩

/-- Where no name begins, none begins in the other text. -/
theorem takeSpaced_swap_eq_nil (hcloses : Closes r v) (hr : r <:+ s.rest) (hmore : s.rest ≠ [])
    (hname : (s.takeSpaced isNameChar).1 = []) :
    (s.swap r v d).rest ≠ [] ∧ ((s.swap r v d).takeSpaced isNameChar).1 = [] := by
  obtain ⟨c, cs, hrest, hc⟩ : ∃ c cs, (s.swap r v d).rest = c :: cs ∧ isNameChar c = false := by
    rcases Scanner.eq_or_exists_cons hr with hs | ⟨c, cs, hs, hcs⟩
    · obtain ⟨c, cs, rfl, hc⟩ := hcloses.exists_cons (hs ▸ hmore)
      exact ⟨c, cs, Scanner.rest_swap_self hs, hc⟩
    · refine ⟨c, _, Scanner.rest_swap hs hcs, ?_⟩
      rw [Scanner.takeSpaced_cons isNameChar hs] at hname
      split at hname
      · cases hname
      next hc => exact eq_false_of_ne_true hc
  rw [Scanner.takeSpaced_cons isNameChar hrest, hrest, hc]
  exact ⟨List.cons_ne_nil _ _, rfl⟩

/-- What is looked at behind an assertion without a name must be in the text that stays. -/
theorem readWordAssertion_swap {kind : Assertion} (h : readWordAssertion s = some (kind, t)) (hmeets : s.Meets r v)
    (hcloses : Closes r v) (hnext : t.rest.head? = some '{' → t.rest = r ∨ r <:+ t.advance.rest) (hr : r <:+ t.rest) :
    readWordAssertion (s.swap r v d) = some (kind, t.swap r v d) := by
  refine readWordAssertion_eq_some_iff.2 ((readWordAssertion_eq_some_iff.1 h).imp ?_ ?_)
  · rintro ⟨name, u, hbrace, htake, hname, hmore, hclose, hkind, rfl⟩
    obtain ⟨cs, hs⟩ := Scanner.exists_rest_of_head? hbrace
    obtain ⟨cs', hu⟩ := Scanner.exists_rest_of_head? hclose
    have hreaches := Scanner.reaches_takeSpaced isNameChar s.advance
    rw [htake] at hreaches
    have hcs' : r <:+ cs' := Scanner.rest_bump hu ▸ hr
    have hadvance : r <:+ s.advance.rest := (hr.trans u.reaches_bump.suffix).trans hreaches.suffix
    have hstays : (s.advance.swap r v d).takeSpaced isNameChar = (name, u.swap r v d) :=
      Scanner.takeSpaced_swap htake hu hcs'
    rw [Scanner.advance_swap hs (hmeets.mono s.reaches_bump.suffix) hadvance]
    refine ⟨name, u.swap r v d, ?_, hstays, hname, ?_, Scanner.head?_swap hu hcs', hkind, Scanner.bump_swap hu hcs'⟩
    · exact Scanner.head?_swap hs (Scanner.suffix_of_advance hs hadvance)
    · intro hnil
      rw [Scanner.takeSpaced_nil isNameChar hnil] at hstays
      exact hname (Prod.mk.inj hstays).1.symm
  · rintro ⟨hplain, rfl, rfl⟩
    refine ⟨fun hbrace => ?_, rfl, rfl⟩
    rcases Scanner.eq_or_exists_cons hr with hs | ⟨c, cs, hs, hcs⟩
    · rw [Scanner.rest_swap_self hs] at hbrace
      exact absurd hbrace hcloses.head?_ne_brace
    · obtain rfl : c = '{' := by simpa using (Scanner.head?_swap hs hcs).symm.trans hbrace
      have hsbrace : s.rest.head? = some '{' := by rw [hs, List.head?_cons]
      have hadvance : r <:+ s.advance.rest := (hnext hsbrace).resolve_left fun heq => by
        have hle := hcs.length_le
        rw [← heq, hs, List.length_cons] at hle
        omega
      obtain ⟨hmore, hname⟩ := hplain hsbrace
      rw [Scanner.advance_swap hs (hmeets.mono s.reaches_bump.suffix) hadvance]
      exact takeSpaced_swap_eq_nil hcloses hadvance hmore hname

/-- What a single character stands for behind a backslash. -/
def single? (c : Char) : Option Escape :=
  match c with
  | 'd' => some (.charClass (.shorthand .digit false))
  | 'D' => some (.charClass (.shorthand .digit true))
  | 's' => some (.charClass (.shorthand .space false))
  | 'S' => some (.charClass (.shorthand .space true))
  | 'w' => some (.charClass (.shorthand .word false))
  | 'W' => some (.charClass (.shorthand .word true))
  | 'a' => some (.literal ⟨'\x07', false⟩)
  | 'f' => some (.literal ⟨'\x0C', false⟩)
  | 't' => some (.literal ⟨'\t', false⟩)
  | 'n' => some (.literal ⟨'\n', false⟩)
  | 'r' => some (.literal ⟨'\r', false⟩)
  | 'v' => some (.literal ⟨'\x0B', false⟩)
  | 'A' => some (.assertion .textStart)
  | 'z' => some (.assertion .textEnd)
  | 'B' => some (.assertion .noWordBoundary)
  | '<' => some (.assertion .wordStart)
  | '>' => some (.assertion .wordEnd)
  | c => if isPlain c then some (.literal ⟨c, false⟩) else none

/-- What an escape is, by the character behind its backslash. -/
theorem read_eq {c : Char} {cs : List Char} (h : s.bump.rest = c :: cs) : read s =
    if c = 'x' then (readNumbered 2 s.bump.advance).map fun (l, u) => (.literal l, u)
    else if c = 'u' then (readNumbered 4 s.bump.advance).map fun (l, u) => (.literal l, u)
    else if c = 'U' then (readNumbered 8 s.bump.advance).map fun (l, u) => (.literal l, u)
    else if c = 'p' then (readProperty s.bump.advance).map fun (q, u) => (.charClass (.property q false), u)
    else if c = 'P' then (readProperty s.bump.advance).map fun (q, u) => (.charClass (.property q true), u)
    else if c = 'b' then (readWordAssertion s.bump.bump).map fun (kind, u) => (.assertion kind, u)
    else (single? c).map (·, s.bump.bump) := by
  rw [read]
  simp only [h]
  split_ifs with hx hu hU hp hP hb
  · subst hx; rfl
  · subst hu; rfl
  · subst hU; rfl
  · subst hp; rfl
  · subst hP; rfl
  · subst hb; rfl
  · unfold single?
    grind

theorem exists_rest_of_read {e : Escape} (h : read s = some (e, t)) : ∃ c cs, s.bump.rest = c :: cs := by
  rw [read] at h
  cases hs : s.bump.rest with
  | nil => simp [hs] at h
  | cons c cs => exact ⟨c, cs, rfl⟩

theorem reaches_read {e : Escape} (h : read s = some (e, t)) : s.bump.bump.Reaches t := by
  obtain ⟨c, cs, hs⟩ := exists_rest_of_read h
  have hadvance : s.bump.bump.Reaches s.bump.advance := s.bump.bump.reaches_skip
  have hnumbered {n : Nat} (h : ((readNumbered n s.bump.advance).map fun (l, u) => (Escape.literal l, u)) = some (e, t)) :
      s.bump.bump.Reaches t := by
    obtain ⟨⟨l, u⟩, hread, heq⟩ := Option.map_eq_some_iff.1 h
    obtain ⟨-, rfl⟩ := Prod.mk.inj heq
    exact hadvance.trans (reaches_readNumbered hread)
  have hproperty {negated : Bool}
      (h : ((readProperty s.bump.advance).map fun (q, u) => (Escape.charClass (.property q negated), u)) = some (e, t)) :
      s.bump.bump.Reaches t := by
    obtain ⟨⟨q, u⟩, hread, heq⟩ := Option.map_eq_some_iff.1 h
    obtain ⟨-, rfl⟩ := Prod.mk.inj heq
    exact hadvance.trans (reaches_readProperty hread)
  rw [read_eq hs] at h
  split_ifs at h
  · exact hnumbered h
  · exact hnumbered h
  · exact hnumbered h
  · exact hproperty h
  · exact hproperty h
  · obtain ⟨⟨kind, u⟩, hread, heq⟩ := Option.map_eq_some_iff.1 h
    obtain ⟨-, rfl⟩ := Prod.mk.inj heq
    exact reaches_readWordAssertion hread
  · obtain ⟨e', -, heq⟩ := Option.map_eq_some_iff.1 h
    obtain ⟨-, rfl⟩ := Prod.mk.inj heq
    exact .refl _

/-- Of what stands behind an escape its reader looks only at a count behind a word boundary. -/
theorem read_swap {e : Escape} {c : Char} {cs : List Char} (hs : s.rest = c :: cs) (h : read s = some (e, t))
    (hmeets : s.bump.bump.Meets r v) (hr : r <:+ t.rest)
    (hword : ∀ kind, e = .assertion kind → Closes r v ∧
      (t.rest.head? = some '{' → t.rest = r ∨ r <:+ t.advance.rest)) :
    read (s.swap r v d) = some (e, t.swap r v d) := by
  obtain ⟨c', cs', hs'⟩ := exists_rest_of_read h
  have hcs' : r <:+ cs' := Scanner.rest_bump hs' ▸ hr.trans (reaches_read h).suffix
  have hcs : r <:+ cs := by
    rw [← Scanner.rest_bump hs, hs']
    exact hcs'.trans (List.suffix_cons c' cs')
  have hbump : (s.swap r v d).bump = s.bump.swap r v d := Scanner.bump_swap hs hcs
  have hbump' : (s.bump.swap r v d).bump = s.bump.bump.swap r v d := Scanner.bump_swap hs' hcs'
  have hrest : (s.swap r v d).bump.rest = c' :: swapEnd r v cs' := by rw [hbump, Scanner.rest_swap hs' hcs']
  have hadvance {u : Scanner} (hu : s.bump.advance.Reaches u) (hr : r <:+ u.rest) :
      (s.bump.swap r v d).advance = s.bump.advance.swap r v d :=
    Scanner.advance_swap hs' hmeets (hr.trans hu.suffix)
  have hmeets' : s.bump.advance.Meets r v := hmeets.mono s.bump.bump.reaches_skip.suffix
  have hnumbered {n : Nat}
      (h : ((readNumbered (n + 1) s.bump.advance).map fun (l, u) => (Escape.literal l, u)) = some (e, t)) :
      ((readNumbered (n + 1) (s.bump.swap r v d).advance).map fun (l, u) => (Escape.literal l, u)) =
        some (e, t.swap r v d) := by
    obtain ⟨⟨l, u⟩, hread, heq⟩ := Option.map_eq_some_iff.1 h
    obtain ⟨rfl, rfl⟩ := Prod.mk.inj heq
    rw [hadvance (reaches_readNumbered hread) hr, readNumbered_swap hread hmeets' hr]
    rfl
  have hproperty {negated : Bool}
      (h : ((readProperty s.bump.advance).map fun (q, u) => (Escape.charClass (.property q negated), u)) = some (e, t)) :
      ((readProperty (s.bump.swap r v d).advance).map fun (q, u) => (Escape.charClass (.property q negated), u)) =
        some (e, t.swap r v d) := by
    obtain ⟨⟨q, u⟩, hread, heq⟩ := Option.map_eq_some_iff.1 h
    obtain ⟨rfl, rfl⟩ := Prod.mk.inj heq
    rw [hadvance (reaches_readProperty hread) hr, readProperty_swap hread hmeets' hr]
    rfl
  rw [read_eq hs'] at h
  rw [read_eq hrest, hbump]
  split_ifs at h ⊢
  · exact hnumbered h
  · exact hnumbered h
  · exact hnumbered h
  · exact hproperty h
  · exact hproperty h
  · obtain ⟨⟨kind, u⟩, hread, heq⟩ := Option.map_eq_some_iff.1 h
    obtain ⟨rfl, rfl⟩ := Prod.mk.inj heq
    obtain ⟨hcloses, hnext⟩ := hword kind rfl
    rw [hbump', readWordAssertion_swap hread hmeets hcloses hnext hr]
    rfl
  · obtain ⟨e', hread, heq⟩ := Option.map_eq_some_iff.1 h
    obtain ⟨rfl, rfl⟩ := Prod.mk.inj heq
    rw [hread, hbump']
    rfl

end Escape

end Attest.Regex

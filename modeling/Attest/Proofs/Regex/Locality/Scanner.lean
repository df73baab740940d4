import Attest.Proofs.Lists
import Attest.Regex.Scanner
import Mathlib.Data.Option.Basic

/-!
Reading a part of a pattern does not depend on what comes behind it. A reader looks at what it passes and at most
at the character behind that, and so it does the same in a text with another end (`swap`) as long as both ends begin
alike, or the other one begins with a parenthesis, which no reader takes for a part of what it has begun.

One thing is different: in a verbose part of a pattern a comment goes on to the end of its line, and so it may take in
what has been put behind it. This can happen only where nothing was left before (`Meets`).
-/

namespace Attest.Regex

/-- The text with another end. -/
def swapEnd (r v cs : List Char) : List Char :=
  cs.take (cs.length - r.length) ++ v

@[simp] theorem swapEnd_append (u r v : List Char) : swapEnd r v (u ++ r) = u ++ v := by
  simp [swapEnd]

theorem swapEnd_cons {r cs : List Char} (hr : r <:+ cs) (v : List Char) (c : Char) :
    swapEnd r v (c :: cs) = c :: swapEnd r v cs := by
  obtain ⟨u, rfl⟩ := hr
  rw [← List.cons_append, swapEnd_append, swapEnd_append, List.cons_append]

/-- The end `v` begins like the end `r`, or with a parenthesis. -/
def Joins (r v : List Char) : Prop :=
  v.head? = r.head? ∨ v.head? = some '(' ∨ v.head? = some ')'

theorem Joins.head?_ne {r v : List Char} (h : Joins r v) {c : Char} (hc : c ≠ '(' ∧ c ≠ ')') (hr : r.head? ≠ some c) :
    v.head? ≠ some c := by
  rcases h with hv | hv | hv
  · rwa [hv]
  · rw [hv]
    exact fun heq => hc.1 (Option.some.inj heq).symm
  · rw [hv]
    exact fun heq => hc.2 (Option.some.inj heq).symm

namespace Scanner

/-- The scanner in a text with another end, its positions moved. -/
def swap (r v : List Char) (d : Nat) (s : Scanner) : Scanner :=
  { s with rest := swapEnd r v s.rest, position := s.position + d }

/-- Further on in the same text. -/
structure Precedes (s t : Scanner) : Prop where
  suffix : t.rest <:+ s.rest
  position : t.position + t.rest.length = s.position + s.rest.length

/-- Further on, and blanks count as before. -/
structure Reaches (s t : Scanner) : Prop extends s.Precedes t where
  verbose : t.verbose = s.verbose

/-- The two ends of a text may be exchanged: they begin alike, or the other one begins with a parenthesis, and no comment
runs into it. -/
def Meets (r v : List Char) (s : Scanner) : Prop :=
  Joins r v ∧ (r = [] → v = [] ∨ '#' ∉ s.rest)

section Basics

variable {s t u : Scanner} {r v : List Char} {d : Nat} {c : Char} {cs : List Char}

theorem Precedes.trans (h : s.Precedes t) (h' : t.Precedes u) : s.Precedes u :=
  ⟨h'.suffix.trans h.suffix, h'.position.trans h.position⟩

theorem Reaches.refl (s : Scanner) : s.Reaches s :=
  ⟨⟨List.suffix_rfl, rfl⟩, rfl⟩

theorem Reaches.trans (h : s.Reaches t) (h' : t.Reaches u) : s.Reaches u :=
  ⟨h.toPrecedes.trans h'.toPrecedes, h'.verbose.trans h.verbose⟩

theorem Precedes.le (h : s.Precedes t) : s.position ≤ t.position := by
  have hlength := h.suffix.length_le
  have hposition := h.position
  omega

theorem Precedes.lt (h : s.Precedes t) (hlength : t.rest.length < s.rest.length) : s.position < t.position := by
  have hposition := h.position
  omega

theorem Meets.mono (h : s.Meets r v) (hsuffix : t.rest <:+ s.rest) : t.Meets r v :=
  ⟨h.1, fun hr => (h.2 hr).imp_right fun hno hmem => hno (hsuffix.subset hmem)⟩

theorem meets_of_ne_nil (hr : r ≠ []) (h : Joins r v) : s.Meets r v :=
  ⟨h, fun hnil => absurd hnil hr⟩

theorem meets_cons (c : Char) (r v : List Char) : s.Meets (c :: r) (c :: v) :=
  meets_of_ne_nil (List.cons_ne_nil _ _) (.inl rfl)

/-- A character that stays may be counted to the end. -/
theorem swap_cons (h : c :: r <:+ s.rest) : s.swap (c :: r) (c :: v) d = s.swap r v d := by
  obtain ⟨u, hu⟩ := h
  have hu' : s.rest = (u ++ [c]) ++ r := by rw [← hu, List.append_assoc, List.singleton_append]
  simp only [swap, mk.injEq, and_self, and_true]
  rw [← hu, swapEnd_append, hu, hu', swapEnd_append, List.append_assoc, List.singleton_append]

theorem rest_swap (h : s.rest = c :: cs) (hr : r <:+ cs) : (s.swap r v d).rest = c :: swapEnd r v cs := by
  rw [swap, h, swapEnd_cons hr]

theorem reaches_bump (s : Scanner) : s.Reaches s.bump := by
  obtain ⟨rest, position, verbose, names⟩ := s
  cases rest with
  | nil => exact .refl _
  | cons c cs =>
      refine ⟨⟨List.suffix_cons c cs, ?_⟩, rfl⟩
      simp only [bump, List.length_cons]
      omega

theorem rest_bump (h : s.rest = c :: cs) : s.bump.rest = cs := by
  simp [bump, h]

theorem length_bump (h : s.rest = c :: cs) : s.bump.rest.length < s.rest.length := by
  rw [rest_bump h, h]
  exact Nat.lt_succ_self _

theorem bump_swap (h : s.rest = c :: cs) (hr : r <:+ cs) : (s.swap r v d).bump = s.bump.swap r v d := by
  obtain ⟨rest, position, verbose, names⟩ := s
  obtain rfl : rest = c :: cs := h
  simp only [swap, bump, swapEnd_cons hr, mk.injEq, and_self, and_true, true_and]
  omega

end Basics

/-! ### Blanks -/

theorem passBlanks_spec (b : Bool) (cs : List Char) (n : Nat) :
    (passBlanks b cs n).1 <:+ cs ∧ (passBlanks b cs n).2 + (passBlanks b cs n).1.length = n + cs.length := by
  induction cs generalizing b n with
  | nil => simp [passBlanks]
  | cons c cs ih =>
      cases b with
      | false =>
          rw [passBlanks]
          split_ifs with hblank hcomment
          · obtain ⟨hsuffix, hposition⟩ := ih false (n + 1)
            exact ⟨hsuffix.trans (List.suffix_cons c cs), by rw [hposition, List.length_cons]; omega⟩
          · obtain ⟨hsuffix, hposition⟩ := ih true (n + 1)
            exact ⟨hsuffix.trans (List.suffix_cons c cs), by rw [hposition, List.length_cons]; omega⟩
          · exact ⟨List.suffix_rfl, rfl⟩
      | true =>
          obtain ⟨hsuffix, hposition⟩ := ih (c != '\n') (n + 1)
          rw [passBlanks]
          exact ⟨hsuffix.trans (List.suffix_cons c cs), by rw [hposition, List.length_cons]; omega⟩

/-- Where passing over blanks stops before one end it stops before the other one. -/
theorem passBlanks_of_meets {b : Bool} {r v : List Char} {n : Nat}
    (hjoins : Joins r v)
    (hopen : r = [] → v = [] ∨ b = false) (hstops : (passBlanks b r n).1 = r) (m : Nat) :
    passBlanks b v m = (v, m) := by
  have hparenthesis {c : Char} (hc : c = '(' ∨ c = ')') (vs : List Char) : passBlanks false (c :: vs) m = (c :: vs, m) := by
    rcases hc with rfl | rfl <;> rw [passBlanks, if_neg (by decide), if_neg (by decide)]
  cases r with
  | nil =>
      cases v with
      | nil => rw [passBlanks]
      | cons c v =>
          obtain rfl : b = false := (hopen rfl).resolve_left (List.cons_ne_nil _ _)
          refine hparenthesis ?_ v
          simpa [Joins] using hjoins
  | cons c r =>
      -- Inside a comment something would have been passed.
      have hshorter (b : Bool) (n : Nat) : (passBlanks b r n).1 ≠ c :: r := fun heq => by
        have hle := (passBlanks_spec b r n).1.length_le
        rw [heq, List.length_cons] at hle
        omega
      cases b with
      | true => exact absurd hstops (hshorter _ _)
      | false =>
          rw [passBlanks] at hstops
          split_ifs at hstops with hblank hcomment
          · exact absurd hstops (hshorter _ _)
          · exact absurd hstops (hshorter _ _)
          · cases v with
            | nil => simp [Joins] at hjoins
            | cons c' v =>
                simp only [Joins, List.head?_cons, Option.some.injEq] at hjoins
                rcases hjoins with rfl | hc'
                · rw [passBlanks, if_neg hblank, if_neg hcomment]
                · exact hparenthesis hc' v

theorem passBlanks_swap {b : Bool} {u r v : List Char} {n : Nat}
    (hjoins : Joins r v)
    (hopen : r = [] → v = [] ∨ b = false ∧ '#' ∉ u) (hr : r <:+ (passBlanks b (u ++ r) n).1) (d : Nat) :
    passBlanks b (u ++ v) (n + d) =
      (swapEnd r v (passBlanks b (u ++ r) n).1, (passBlanks b (u ++ r) n).2 + d) := by
  induction u generalizing b n with
  | nil =>
      have hspec := passBlanks_spec b r n
      have hstops : (passBlanks b r n).1 = r := (hspec.1.eq_of_length_le hr.length_le)
      rw [List.nil_append, List.nil_append, hstops,
        passBlanks_of_meets hjoins (fun hnil => (hopen hnil).imp_right And.left) hstops]
      have hposition : (passBlanks b r n).2 = n := by
        have := hspec.2
        rw [hstops] at this
        omega
      rw [hposition]
      simp [swapEnd]
  | cons c u ih =>
      have hnext (b' : Bool) (hopen' : r = [] → v = [] ∨ b' = false ∧ '#' ∉ u)
          (hr : r <:+ (passBlanks b' (u ++ r) (n + 1)).1) :
          passBlanks b' (u ++ v) (n + d + 1) = (swapEnd r v (passBlanks b' (u ++ r) (n + 1)).1,
            (passBlanks b' (u ++ r) (n + 1)).2 + d) := by
        rw [Nat.add_right_comm]
        exact ih hopen' hr
      rw [List.cons_append, List.cons_append]
      cases b with
      | true =>
          rw [passBlanks, passBlanks]
          rw [List.cons_append, passBlanks] at hr
          exact hnext _ (fun hnil => (hopen hnil).imp_right fun h => absurd h.1 Bool.noConfusion) hr
      | false =>
          rw [List.cons_append, passBlanks] at hr
          rw [passBlanks, passBlanks]
          split_ifs at hr ⊢ with hblank hcomment
          · exact hnext _ (fun hnil => (hopen hnil).imp_right fun h => ⟨rfl, fun hmem => h.2 (List.mem_cons_of_mem c hmem)⟩) hr
          · exact hnext _ (fun hnil => (hopen hnil).imp_right fun h => absurd (hcomment ▸ List.mem_cons_self) h.2) hr
          · rw [swapEnd_cons (List.suffix_append u r), swapEnd_append]

section Basics

variable {s t : Scanner} {r v : List Char} {d : Nat} {c : Char} {cs : List Char}

theorem reaches_skip (s : Scanner) : s.Reaches s.skip := by
  obtain ⟨rest, position, verbose, names⟩ := s
  cases verbose with
  | false => exact .refl _
  | true =>
      obtain ⟨hsuffix, hposition⟩ := passBlanks_spec false rest position
      exact ⟨⟨hsuffix, hposition⟩, rfl⟩

theorem reaches_advance (s : Scanner) : s.Reaches s.advance :=
  s.reaches_bump.trans s.bump.reaches_skip

theorem skip_swap (hmeets : s.Meets r v) (hr : r <:+ s.skip.rest) : (s.swap r v d).skip = s.skip.swap r v d := by
  obtain ⟨u, hu⟩ := hr.trans s.reaches_skip.suffix
  obtain ⟨rest, position, verbose, names⟩ := s
  obtain rfl : u ++ r = rest := hu
  cases verbose with
  | false => rfl
  | true =>
      have hopen : r = [] → v = [] ∨ false = false ∧ '#' ∉ u := fun hnil =>
        (hmeets.2 hnil).imp_right fun hno => ⟨rfl, fun hmem => hno (List.mem_append_left r hmem)⟩
      have hswap := passBlanks_swap (n := position) hmeets.1 hopen hr d
      simp only [skip, swap, swapEnd_append, hswap, if_true]

theorem advance_swap (h : s.rest = c :: cs) (hmeets : s.bump.Meets r v) (hr : r <:+ s.advance.rest) :
    (s.swap r v d).advance = s.advance.swap r v d := by
  have hcs : r <:+ cs := rest_bump h ▸ hr.trans s.bump.reaches_skip.suffix
  rw [advance, bump_swap h hcs]
  exact skip_swap hmeets hr

theorem head?_swap (h : s.rest = c :: cs) (hr : r <:+ cs) : (s.swap r v d).rest.head? = some c := by
  rw [rest_swap h hr, List.head?_cons]

theorem rest_swap_self (h : s.rest = r) : (s.swap r v d).rest = v := by
  rw [swap, h]
  exact swapEnd_append [] r v

/-- An end of a text is all of it, or there is a character before it. -/
theorem eq_or_exists_cons (hr : r <:+ s.rest) : s.rest = r ∨ ∃ c cs, s.rest = c :: cs ∧ r <:+ cs := by
  cases hs : s.rest with
  | nil => exact .inl (List.suffix_nil.1 (hs ▸ hr)).symm
  | cons c cs =>
      rw [hs] at hr
      exact (List.suffix_cons_iff.1 hr).imp Eq.symm fun hcs => ⟨c, cs, rfl, hcs⟩

theorem rest_swap_ne_nil (hv : v ≠ []) : (s.swap r v d).rest ≠ [] :=
  List.append_ne_nil_of_right_ne_nil _ hv

theorem head?_swap_cons (hr : c :: r <:+ s.rest) : (s.swap (c :: r) (c :: v) d).rest.head? = s.rest.head? := by
  rcases eq_or_exists_cons hr with hs | ⟨c', cs, hs, hcs⟩
  · rw [rest_swap_self hs, hs, List.head?_cons, List.head?_cons]
  · rw [head?_swap hs hcs, hs, List.head?_cons]

/-- A character that does not come next does not come next before an end that joins. -/
theorem head?_swap_ne (hr : r <:+ s.rest) (hjoins : Joins r v) (hc : c ≠ '(' ∧ c ≠ ')') (h : s.rest.head? ≠ some c) :
    (s.swap r v d).rest.head? ≠ some c := by
  rcases eq_or_exists_cons hr with hs | ⟨c', cs, hs, hcs⟩
  · rw [rest_swap_self hs]
    exact hjoins.head?_ne hc (hs ▸ h)
  · rwa [head?_swap hs hcs, ← List.head?_cons (a := c') (l := cs), ← hs]

theorem exists_rest_of_head? (h : s.rest.head? = some c) : ∃ cs, s.rest = c :: cs := by
  cases hs : s.rest with
  | nil => rw [hs] at h; cases h
  | cons c' cs =>
      rw [hs] at h
      obtain rfl := Option.some.inj h
      exact ⟨cs, rfl⟩

/-- What stays behind a character that is passed is not all there is. -/
theorem ne_of_suffix_bump (h : s.rest.head? = some c) (hr : r <:+ s.bump.rest) : s.rest ≠ r := by
  obtain ⟨cs, hs⟩ := exists_rest_of_head? h
  have hle := hr.length_le
  have hlt := length_bump hs
  rintro rfl
  omega

/-- What stays behind a character that is passed stays behind it. -/
theorem suffix_of_advance (h : s.rest = c :: cs) (hr : r <:+ s.advance.rest) : r <:+ cs :=
  rest_bump h ▸ hr.trans s.bump.reaches_skip.suffix

/-! ### Runs of characters -/

theorem reaches_takeSpaced (p : Char → Bool) (s : Scanner) : s.Reaches (s.takeSpaced p).2 := by
  fun_induction takeSpaced p s with
  | case1 s c cs hs hp ds t hrec ih =>
      rw [hrec] at ih
      exact s.reaches_advance.trans ih
  | case2 => exact .refl _
  | case3 => exact .refl _

theorem takeSpaced_cons (p : Char → Bool) (h : s.rest = c :: cs) : s.takeSpaced p =
    if p c then (c :: (s.advance.takeSpaced p).1, (s.advance.takeSpaced p).2) else ([], s) := by
  rw [takeSpaced]
  split
  next c' cs' h' =>
    rw [h] at h'
    obtain ⟨rfl, rfl⟩ := List.cons.inj h'
    rfl
  next h' => rw [h] at h'; cases h'

theorem takeSpaced_swap_cons (p : Char → Bool) (hr : c :: r <:+ (s.takeSpaced p).2.rest) :
    (s.swap (c :: r) (c :: v) d).takeSpaced p = ((s.takeSpaced p).1, (s.takeSpaced p).2.swap (c :: r) (c :: v) d) := by
  fun_induction takeSpaced p s with
  | case1 s c' cs' hs hp ds t hrec ih =>
      have hreaches := reaches_takeSpaced p s.advance
      rw [hrec] at hreaches ih
      have hadvance : c :: r <:+ s.advance.rest := hr.trans hreaches.suffix
      have hcs' : c :: r <:+ cs' := rest_bump hs ▸ hadvance.trans s.bump.reaches_skip.suffix
      rw [takeSpaced_cons p (rest_swap hs hcs'), if_pos hp, advance_swap hs (meets_cons c r v) hadvance, ih hr]
  | case2 s c' cs' hs hp =>
      obtain ⟨u, hu⟩ := hr
      have hswap : (s.swap (c :: r) (c :: v) d).rest = u ++ c :: v := by rw [swap, ← hu, swapEnd_append]
      have hhead : ∃ cs'', u ++ c :: v = c' :: cs'' := by
        cases u with
        | nil => exact ⟨v, by rw [(List.cons.inj (hu.trans hs)).1, List.nil_append]⟩
        | cons c'' u => exact ⟨u ++ c :: v, by rw [(List.cons.inj (hu.trans hs)).1, List.cons_append]⟩
      obtain ⟨cs'', hcs''⟩ := hhead
      rw [takeSpaced_cons p (hswap.trans hcs''), if_neg hp]
  | case3 s hs =>
      rw [hs] at hr
      exact absurd (List.suffix_nil.1 hr) (List.cons_ne_nil _ _)

theorem exists_cons_suffix_cons (hr : r <:+ cs) (c : Char) : ∃ c', c' :: r <:+ c :: cs := by
  obtain ⟨u, rfl⟩ := hr
  rcases List.eq_nil_or_concat u with rfl | ⟨u, c', rfl⟩
  · exact ⟨c, List.suffix_rfl⟩
  · exact ⟨c', c :: u, by simp⟩

theorem takeSpaced_nil (p : Char → Bool) (h : s.rest = []) : s.takeSpaced p = ([], s) := by
  rw [takeSpaced]
  split
  next h' => rw [h] at h'; cases h'
  next => rfl

/-- A run that stops before a character of the text is the same in a text with another end behind that. -/
theorem takeSpaced_swap {p : Char → Bool} {ds : List Char} (h : s.takeSpaced p = (ds, t)) (ht : t.rest = c :: cs)
    (hr : r <:+ cs) : (s.swap r v d).takeSpaced p = (ds, t.swap r v d) := by
  obtain ⟨c', hc'⟩ := exists_cons_suffix_cons hr c
  rw [← ht] at hc'
  have hreaches := reaches_takeSpaced p s
  have hswap := takeSpaced_swap_cons (v := v) (d := d) p (by rw [h]; exact hc')
  rw [h] at hswap hreaches
  rwa [swap_cons (hc'.trans hreaches.suffix), swap_cons hc'] at hswap

/-- Behind some characters, whatever they are. -/
structure Passes (s : Scanner) (ds : List Char) (t : Scanner) : Prop where
  rest : s.rest = ds ++ t.rest
  eq : t = { s with rest := t.rest, position := s.position + ds.length }

theorem Passes.reaches {ds : List Char} (h : s.Passes ds t) : s.Reaches t := by
  refine ⟨⟨⟨ds, h.rest.symm⟩, ?_⟩, by rw [h.eq]⟩
  rw [h.rest, List.length_append, h.eq]
  simp only
  omega

theorem Passes.append {ds es : List Char} {u : Scanner} (h : s.Passes ds t) (h' : t.Passes es u) : s.Passes (ds ++ es) u := by
  refine ⟨by rw [h.rest, h'.rest, List.append_assoc], ?_⟩
  rw [h'.eq, h.eq, List.length_append, Nat.add_assoc]

theorem Passes.split {ds es : List Char} {u : Scanner} (h : s.Passes (ds ++ es) u) :
    ∃ t, s.Passes ds t ∧ t.Passes es u := by
  refine ⟨{ s with rest := es ++ u.rest, position := s.position + ds.length }, ⟨?_, rfl⟩, rfl, ?_⟩
  · rw [h.rest, List.append_assoc]
  · rw [h.eq, List.length_append, Nat.add_assoc]

theorem Passes.unique {ds : List Char} {u : Scanner} (h : s.Passes ds t) (h' : s.Passes ds u) : t = u := by
  have hrest : t.rest = u.rest := List.append_cancel_left (h.rest.symm.trans h'.rest)
  rw [h.eq, h'.eq, hrest]

theorem Passes.swap {ds : List Char} (h : s.Passes ds t) (hr : r <:+ t.rest) :
    (s.swap r v d).Passes ds (t.swap r v d) := by
  obtain ⟨w, hw⟩ := hr
  refine ⟨?_, ?_⟩
  · rw [Scanner.swap, Scanner.swap, h.rest, ← hw, ← List.append_assoc, swapEnd_append, swapEnd_append, List.append_assoc]
  · rw [h.eq]
    simp only [Scanner.swap, mk.injEq, true_and, and_true]
    omega

theorem passes_bump (h : s.rest = c :: cs) : s.Passes [c] s.bump := by
  refine ⟨by rw [rest_bump h, h, List.singleton_append], ?_⟩
  obtain ⟨rest, position, verbose, names⟩ := s
  obtain rfl : rest = c :: cs := h
  rfl

theorem passes_drop {ds : List Char} (h : s.rest = ds ++ cs) : s.Passes ds (s.drop ds.length) := by
  refine ⟨?_, rfl⟩
  rw [drop, h, List.drop_left]

theorem drop_swap {ds : List Char} (h : s.rest = ds ++ cs) (hr : r <:+ (s.drop ds.length).rest) :
    (s.swap r v d).drop ds.length = (s.drop ds.length).swap r v d := by
  have hswap := (passes_drop h).swap (v := v) (d := d) hr
  exact (passes_drop hswap.rest).unique hswap

theorem past?_eq_some_iff {text : String} : s.past? text = some t ↔ s.Passes text.toList t := by
  rw [past?]
  split
  next hprefix =>
    obtain ⟨rest, hrest⟩ := List.isPrefixOf_iff_prefix.1 hprefix
    have hdrop := passes_drop hrest.symm
    rw [String.length_toList] at hdrop
    rw [Option.some.injEq]
    exact ⟨fun heq => heq ▸ hdrop, hdrop.unique⟩
  next hprefix =>
    exact iff_of_false (fun h => by cases h) fun h => hprefix (List.isPrefixOf_iff_prefix.2 ⟨t.rest, h.rest.symm⟩)

theorem past?_swap {text : String} (h : s.past? text = some t) (hr : r <:+ t.rest) :
    (s.swap r v d).past? text = some (t.swap r v d) :=
  past?_eq_some_iff.2 ((past?_eq_some_iff.1 h).swap hr)

theorem take_eq_iff {p : Char → Bool} {ds : List Char} : s.take p = (ds, t) ↔
    s.Passes ds t ∧ (∀ d ∈ ds, p d = true) ∧ ∀ c ∈ t.rest.head?, p c = false := by
  have hspan : s.rest.span p = (ds, t.rest) ↔
      s.rest = ds ++ t.rest ∧ (∀ d ∈ ds, p d = true) ∧ ∀ c ∈ t.rest.head?, p c = false := span_eq_iff
  rw [take]
  constructor
  · intro h
    obtain ⟨rfl, rfl⟩ := Prod.mk.inj h
    obtain ⟨hrest, hds⟩ := hspan.1 rfl
    exact ⟨⟨hrest, rfl⟩, hds⟩
  · rintro ⟨⟨hrest, heq⟩, hds⟩
    rw [hspan.2 ⟨hrest, hds⟩]
    exact Prod.ext rfl heq.symm

theorem take_swap {p : Char → Bool} {ds : List Char} (h : s.take p = (ds, t)) (ht : t.rest = c :: cs) (hr : r <:+ cs) :
    (s.swap r v d).take p = (ds, t.swap r v d) := by
  obtain ⟨hpasses, hds, hc⟩ := take_eq_iff.1 h
  refine take_eq_iff.2 ⟨hpasses.swap (ht ▸ hr.trans (List.suffix_cons c cs)), hds, fun c' hc' => hc c' ?_⟩
  rw [rest_swap ht hr] at hc'
  rwa [ht]

end Basics

end Scanner

end Attest.Regex

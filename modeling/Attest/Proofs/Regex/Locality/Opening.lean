import Attest.Proofs.Regex.Locality.Bracket

/-!
What an opening parenthesis begins, and what a count in braces says, does not depend on what comes behind it either.
-/

namespace Attest.Regex

open Scanner

variable {s t u : Scanner} {r v : List Char} {d : Nat} {c : Char} {cs : List Char}

namespace Scanner

/-- Whether a text comes next is seen in the characters that are passed if these are as many. -/
theorem past?_swap_eq_map {text : String} {ds : List Char} (h : s.Passes ds t) (hr : r <:+ t.rest)
    (hle : text.length ≤ ds.length) : (s.swap r v d).past? text = (s.past? text).map (·.swap r v d) := by
  -- A text that comes next in either of the two is passed on the way to `t`.
  have hfront {s' t' u : Scanner} (h' : s'.Passes ds t') (htext : s'.past? text = some u) :
      ∃ w, s.Passes text.toList w ∧ t.rest <:+ w.rest := by
    have hprefix : text.toList <+: ds := by
      refine List.prefix_of_prefix_length_le ⟨u.rest, (past?_eq_some_iff.1 htext).rest.symm⟩ ⟨t'.rest, h'.rest.symm⟩ ?_
      rwa [String.length_toList]
    obtain ⟨es, rfl⟩ := hprefix
    obtain ⟨w, hw, ht⟩ := h.split
    exact ⟨w, hw, ht.reaches.suffix⟩
  cases hpast : s.past? text with
  | some u =>
      obtain ⟨w, hw, ht⟩ := hfront h hpast
      obtain rfl := (past?_eq_some_iff.1 hpast).unique hw
      exact past?_swap hpast (hr.trans ht)
  | none =>
      rw [Option.map_none, Option.eq_none_iff_forall_ne_some]
      intro u hu
      obtain ⟨w, hw, -⟩ := hfront (h.swap hr) hu
      rw [past?_eq_some_iff.2 hw] at hpast
      cases hpast

end Scanner

/-! ### Openings -/

/-- Whether a look at what comes behind or before begins, which is not supported. -/
def looksAround (s : Scanner) : Bool :=
  ["?=", "?!", "?<=", "?<!"].any fun text => (s.past? text).isSome

/-- The scanner at the name of a group. -/
def pastNamed? (s : Scanner) : Option Scanner :=
  (s.past? "?P<").or (s.past? "?<")

/-- Flags up to the colon of a group or up to the parenthesis that closes a directive. -/
def readFlags (s : Scanner) : Option (Opening × Scanner) := do
  let (letters, t) := s.take fun c => c != ':' && c != ')'
  let changes ← flagChanges? letters
  match t.rest with
  | ':' :: _ => pure (.group false changes, t.bump)
  | ')' :: _ =>
      guard (changes ≠ [])
      pure (.directive changes, t.bump)
  | _ => none

/-- What an opening parenthesis begins, read behind it and behind the blanks there. -/
def readOpeningAt (s : Scanner) : Option (Opening × Scanner) :=
  if looksAround s then none
  else match pastNamed? s, s.past? "?" with
    | some t, _ => (readGroupName t).map (.group true [], ·)
    | none, some t => readFlags t
    | none, none => some (.group true [], s)

theorem readOpening_eq (s : Scanner) : readOpening s = readOpeningAt s.advance := by
  have hlooks (t : Scanner) : (["?=", "?!", "?<=", "?<!"].all fun text => (t.past? text).isNone) = !looksAround t := by
    simp [looksAround]
  have hnamed (t : Scanner) : ((t.past? "?P<").or (t.past? "?<")) = pastNamed? t := rfl
  rw [readOpening, readOpeningAt, show s.advance = s.bump.skip from rfl]
  simp only [hlooks, hnamed]
  cases looksAround s.bump.skip with
  | true => rfl
  | false =>
      cases pastNamed? s.bump.skip with
      | some t =>
          cases hname : readGroupName t <;> simp [hname]
      | none => cases s.bump.skip.past? "?" <;> rfl

theorem readFlags_eq_some_iff {o : Opening} : readFlags s = some (o, t) ↔
    ∃ letters u changes, s.take (fun c => c != ':' && c != ')') = (letters, u) ∧ flagChanges? letters = some changes ∧
      (u.rest.head? = some ':' ∧ .group false changes = o ∨
        u.rest.head? = some ')' ∧ changes ≠ [] ∧ .directive changes = o) ∧ u.bump = t := by
  rw [readFlags]
  cases htake : s.take (fun c => c != ':' && c != ')') with
  | mk letters u =>
      simp only [bind, Option.bind_eq_some_iff, Prod.mk.injEq]
      constructor
      · rintro ⟨changes, hchanges, h⟩
        refine ⟨letters, u, changes, ⟨rfl, rfl⟩, hchanges, ?_⟩
        split at h
        next hrest =>
          obtain ⟨rfl, rfl⟩ := Prod.mk.inj (Option.some.inj h)
          exact ⟨.inl ⟨by rw [hrest, List.head?_cons], rfl⟩, rfl⟩
        next hrest =>
          simp only [Option.bind_eq_some_iff, Option.guard_eq_some', pure, Option.some.injEq, Prod.mk.injEq] at h
          obtain ⟨-, hne, rfl, rfl⟩ := h
          exact ⟨.inr ⟨by rw [hrest, List.head?_cons], hne, rfl⟩, rfl⟩
        next => cases h
      · rintro ⟨_, _, changes, ⟨rfl, rfl⟩, hchanges, h, rfl⟩
        refine ⟨changes, hchanges, ?_⟩
        rcases h with ⟨hhead, rfl⟩ | ⟨hhead, hne, rfl⟩
        · obtain ⟨cs, hcs⟩ := exists_rest_of_head? hhead
          simp [hcs]
        · obtain ⟨cs, hcs⟩ := exists_rest_of_head? hhead
          simp [hcs, hne, Option.bind]

theorem past?_eq_none_of_head? {text : String} (htext : text.toList.head? = some '?') (h : s.rest.head? ≠ some '?') :
    s.past? text = none := by
  rw [Option.eq_none_iff_forall_ne_some]
  intro t ht
  obtain ⟨hrest, -⟩ := past?_eq_some_iff.1 ht
  cases hchars : text.toList with
  | nil => rw [hchars] at htext; cases htext
  | cons c cs =>
      rw [hchars] at htext hrest
      rw [hrest] at h
      exact h htext

/-- A group without a sign behind its parenthesis captures. -/
theorem readOpeningAt_of_head? (h : s.rest.head? ≠ some '?') : readOpeningAt s = some (.group true [], s) := by
  have hnone {text : String} (htext : text.toList.head? = some '?') : s.past? text = none :=
    past?_eq_none_of_head? htext h
  rw [readOpeningAt, looksAround, pastNamed?]
  simp only [List.any_cons, List.any_nil, @hnone "?=" (by decide), @hnone "?!" (by decide), @hnone "?<=" (by decide),
    @hnone "?<!" (by decide), @hnone "?P<" (by decide), @hnone "?<" (by decide), @hnone "?" (by decide)]
  rfl

/-- A group with a colon alone behind its sign does not capture and changes no flags. -/
theorem readOpeningAt_colon (h : s.rest = '?' :: ':' :: cs) : readOpeningAt s = some (.group false [], s.drop 2) := by
  have hnone {text : String} (htext : text.toList.isPrefixOf ('?' :: ':' :: cs) = false) : s.past? text = none := by
    rw [past?, h, htext]
    rfl
  have hsign : s.past? "?" = some (s.drop 1) := past?_eq_some_iff.2 (@passes_drop _ _ ['?'] h)
  have hrest : (s.drop 1).rest = ':' :: cs := by rw [drop, h]; rfl
  have hbump : (s.drop 1).bump = s.drop 2 := by
    rw [bump, hrest]
    simp [drop, h]
  have hflags : readFlags (s.drop 1) = some (.group false [], s.drop 2) := by
    refine readFlags_eq_some_iff.2 ⟨[], s.drop 1, [], take_eq_iff.2 ⟨⟨rfl, rfl⟩, by simp, fun c hc => ?_⟩, rfl,
      .inl ⟨by rw [hrest, List.head?_cons], rfl⟩, hbump⟩
    rw [hrest] at hc
    obtain rfl := Option.some.inj hc
    rfl
  rw [readOpeningAt, looksAround, pastNamed?]
  simp only [List.any_cons, List.any_nil, @hnone "?=" rfl, @hnone "?!" rfl, @hnone "?<=" rfl, @hnone "?<!" rfl,
    @hnone "?P<" rfl, @hnone "?<" rfl, hsign]
  exact hflags

theorem readGroupName_eq_some_iff : readGroupName s = some t ↔
    ∃ name u first, s.take isGroupNameChar = (name, u) ∧ u.rest.head? = some '>' ∧ name.head? = some first ∧
      (first = '_' ∨ isAlphabetic first = true) ∧ String.ofList name ∉ u.groupNames ∧
      { u.bump with groupNames := String.ofList name :: u.groupNames } = t := by
  rw [readGroupName]
  cases htake : s.take isGroupNameChar with
  | mk name u => simp [Option.bind_eq_some_iff]

theorem reaches_readGroupName (h : readGroupName s = some t) : s.Reaches t := by
  obtain ⟨name, u, first, htake, -, -, -, -, rfl⟩ := readGroupName_eq_some_iff.1 h
  have hreaches := (take_eq_iff.1 htake).1.reaches.trans u.reaches_bump
  exact ⟨⟨hreaches.suffix, hreaches.position⟩, hreaches.verbose⟩

theorem readGroupName_swap (h : readGroupName s = some t) (hr : r <:+ t.rest) :
    readGroupName (s.swap r v d) = some (t.swap r v d) := by
  obtain ⟨name, u, first, htake, hclose, hfirst, hletter, hnew, rfl⟩ := readGroupName_eq_some_iff.1 h
  obtain ⟨cs, hu⟩ := exists_rest_of_head? hclose
  have hcs : r <:+ cs := rest_bump hu ▸ hr
  refine readGroupName_eq_some_iff.2 ⟨name, u.swap r v d, first, take_swap htake hu hcs, head?_swap hu hcs, hfirst, hletter,
    hnew, ?_⟩
  rw [bump_swap hu hcs]
  rfl

/-- The characters that are passed at the name of a group. -/
theorem exists_passes_readGroupName (h : readGroupName s = some t) : ∃ c cs, s.rest = c :: (cs ++ '>' :: t.rest) := by
  obtain ⟨name, u, first, htake, hclose, hfirst, -, -, rfl⟩ := readGroupName_eq_some_iff.1 h
  obtain ⟨cs, hu⟩ := exists_rest_of_head? hclose
  cases name with
  | nil => cases hfirst
  | cons c name =>
      refine ⟨c, name, ?_⟩
      rw [(take_eq_iff.1 htake).1.rest, hu, List.cons_append]
      simp only [rest_bump hu]

theorem reaches_readFlags {o : Opening} (h : readFlags s = some (o, t)) : s.Reaches t := by
  obtain ⟨letters, u, changes, htake, -, -, rfl⟩ := readFlags_eq_some_iff.1 h
  exact (take_eq_iff.1 htake).1.reaches.trans u.reaches_bump

theorem readFlags_swap {o : Opening} (h : readFlags s = some (o, t)) (hr : r <:+ t.rest) :
    readFlags (s.swap r v d) = some (o, t.swap r v d) := by
  obtain ⟨letters, u, changes, htake, hchanges, hclose, rfl⟩ := readFlags_eq_some_iff.1 h
  obtain ⟨c, cs, hu⟩ : ∃ c cs, u.rest = c :: cs := by
    rcases hclose with ⟨hclose, -⟩ | ⟨hclose, -⟩
    · exact ⟨_, exists_rest_of_head? hclose⟩
    · exact ⟨_, exists_rest_of_head? hclose⟩
  have hcs : r <:+ cs := rest_bump hu ▸ hr
  refine readFlags_eq_some_iff.2 ⟨letters, u.swap r v d, changes, take_swap htake hu hcs, hchanges, ?_, bump_swap hu hcs⟩
  rwa [head?_swap hu hcs, ← List.head?_cons (a := c) (l := cs), ← hu]

/-- The ways in which a group may open: with a name, with flags, or with nothing. -/
theorem readOpeningAt_cases {o : Opening} (h : readOpeningAt s = some (o, t)) : looksAround s = false ∧
    ((∃ u, pastNamed? s = some u ∧ readGroupName u = some t ∧ .group true [] = o) ∨
      (∃ u, pastNamed? s = none ∧ s.past? "?" = some u ∧ readFlags u = some (o, t)) ∨
      s.rest.head? ≠ some '?' ∧ .group true [] = o ∧ s = t) := by
  rw [readOpeningAt] at h
  split at h
  · cases h
  next hlooks =>
    refine ⟨eq_false_of_ne_true hlooks, ?_⟩
    split at h
    next u hnamed =>
      obtain ⟨w, hname, heq⟩ := Option.map_eq_some_iff.1 h
      obtain ⟨rfl, rfl⟩ := Prod.mk.inj heq
      exact .inl ⟨u, hnamed, hname, rfl⟩
    next u hnamed hsign => exact .inr (.inl ⟨u, hnamed, hsign, h⟩)
    next hnamed hsign =>
      obtain ⟨rfl, rfl⟩ := Prod.mk.inj (Option.some.inj h)
      refine .inr (.inr ⟨fun hhead => ?_, rfl, rfl⟩)
      obtain ⟨cs, hcs⟩ := exists_rest_of_head? hhead
      rw [past?_eq_some_iff.2 (@passes_drop _ _ ['?'] hcs)] at hsign
      cases hsign

theorem reaches_pastNamed? (h : pastNamed? s = some t) : s.Reaches t := by
  rcases Option.or_eq_some_iff.1 h with h | ⟨-, h⟩
  · exact (past?_eq_some_iff.1 h).reaches
  · exact (past?_eq_some_iff.1 h).reaches

theorem reaches_readOpeningAt {o : Opening} (h : readOpeningAt s = some (o, t)) : s.Reaches t := by
  obtain ⟨-, ⟨u, hnamed, hname, -⟩ | ⟨u, -, hsign, hflags⟩ | ⟨-, -, rfl⟩⟩ := readOpeningAt_cases h
  · exact (reaches_pastNamed? hnamed).trans (reaches_readGroupName hname)
  · exact (past?_eq_some_iff.1 hsign).reaches.trans (reaches_readFlags hflags)
  · exact .refl _

theorem reaches_readOpening {o : Opening} (h : readOpening s = some (o, t)) : s.advance.Reaches t :=
  reaches_readOpeningAt (readOpening_eq s ▸ h)

/-- Three characters are enough to see what kind of group opens. -/
theorem opens_swap {ds : List Char} (h : s.Passes ds t) (hr : r <:+ t.rest) (hle : 3 ≤ ds.length) :
    looksAround (s.swap r v d) = looksAround s ∧ pastNamed? (s.swap r v d) = (pastNamed? s).map (·.swap r v d) := by
  have hmap {text : String} (htext : text.length ≤ 3) :
      (s.swap r v d).past? text = (s.past? text).map (·.swap r v d) :=
    past?_swap_eq_map h hr (Nat.le_trans htext hle)
  constructor
  · simp only [looksAround, List.any_cons, List.any_nil, @hmap "?=" (by decide), @hmap "?!" (by decide),
      @hmap "?<=" (by decide), @hmap "?<!" (by decide), Option.isSome_map]
  · rw [pastNamed?, pastNamed?, @hmap "?P<" (by decide), @hmap "?<" (by decide)]
    cases s.past? "?P<" <;> rfl

theorem readOpeningAt_swap {o : Opening} (h : readOpeningAt s = some (o, t)) (hr : r <:+ t.rest)
    (hjoins : Joins r v) :
    readOpeningAt (s.swap r v d) = some (o, t.swap r v d) := by
  have hopens {ds : List Char} (hds : s.rest = ds ++ t.rest) (hle : 3 ≤ ds.length) :=
    @opens_swap s _ r v d ds (passes_drop hds) (by rwa [drop, hds, List.drop_left]) hle
  obtain ⟨hlooks, ⟨u, hnamed, hname, rfl⟩ | ⟨u, hnamed, hsign, hflags⟩ | ⟨hhead, rfl, rfl⟩⟩ := readOpeningAt_cases h
  · -- A name has at least one character, and a closing angle behind it.
    obtain ⟨c, cs, hu⟩ := exists_passes_readGroupName hname
    obtain ⟨text, htext, hle⟩ : ∃ text, s.Passes text u ∧ 2 ≤ text.length := by
      rcases Option.or_eq_some_iff.1 hnamed with h | ⟨-, h⟩
      · exact ⟨_, past?_eq_some_iff.1 h, by decide⟩
      · exact ⟨_, past?_eq_some_iff.1 h, by decide⟩
    have hrest : s.rest = (text ++ c :: (cs ++ ['>'])) ++ t.rest := by rw [htext.rest, hu]; simp
    obtain ⟨hlooksSwap, hnamedSwap⟩ := hopens hrest (by simp only [List.length_append, List.length_cons]; omega)
    rw [readOpeningAt, hlooksSwap, hlooks, hnamedSwap, hnamed, if_neg Bool.false_ne_true, Option.map_some]
    simp only
    rw [readGroupName_swap hname hr]
    rfl
  · have hpasses := past?_eq_some_iff.1 hsign
    obtain ⟨letters, w, changes, htake, hchanges, hclose, rfl⟩ := readFlags_eq_some_iff.1 hflags
    obtain ⟨c, cs, hw, hc⟩ : ∃ c cs, w.rest = c :: cs ∧ (letters = [] → c = ':') := by
      rcases hclose with ⟨hclose, -⟩ | ⟨hclose, hne, -⟩
      · obtain ⟨cs, hw⟩ := exists_rest_of_head? hclose
        exact ⟨_, cs, hw, fun _ => rfl⟩
      · obtain ⟨cs, hw⟩ := exists_rest_of_head? hclose
        refine ⟨_, cs, hw, ?_⟩
        rintro rfl
        exact absurd (Option.some.inj hchanges).symm hne
    have hrest : s.rest = ('?' :: (letters ++ [c])) ++ w.bump.rest := by
      rw [hpasses.rest, (take_eq_iff.1 htake).1.rest, hw, rest_bump hw]
      simp
    cases letters with
    | nil =>
        obtain rfl := hc rfl
        have hcolon : s.rest = '?' :: ':' :: w.bump.rest := hrest
        have hresult := readOpeningAt_colon hcolon
        rw [h] at hresult
        obtain ⟨rfl, ht⟩ := Prod.mk.inj (Option.some.inj hresult)
        have hdrop := (@passes_drop s w.bump.rest ['?', ':'] hcolon).swap (v := v) (d := d) (ht ▸ hr)
        rw [readOpeningAt_colon hdrop.rest, ht]
        exact congrArg (fun x => some (_, x)) (@drop_swap _ _ _ _ _ ['?', ':'] hcolon (ht ▸ hr))
    | cons letter letters =>
        obtain ⟨hlooksSwap, hnamedSwap⟩ := hopens hrest (by simp only [List.length_append, List.length_cons]; omega)
        have hru : r <:+ u.rest := hr.trans (reaches_readFlags hflags).suffix
        rw [readOpeningAt, hlooksSwap, hlooks, hnamedSwap, hnamed, past?_swap hsign hru, if_neg Bool.false_ne_true,
          Option.map_none]
        exact readFlags_swap hflags hr
  · exact readOpeningAt_of_head? (head?_swap_ne hr hjoins (by decide) hhead)

/-- What an opening parenthesis begins is seen behind it. -/
theorem readOpening_swap {o : Opening} (hs : s.rest = c :: cs) (h : readOpening s = some (o, t)) (hmeets : s.Meets r v)
    (hr : r <:+ t.rest) : readOpening (s.swap r v d) = some (o, t.swap r v d) := by
  have hadvance : r <:+ s.advance.rest := hr.trans (reaches_readOpening h).suffix
  rw [readOpening_eq] at h ⊢
  rw [advance_swap hs (hmeets.mono s.reaches_bump.suffix) hadvance]
  exact readOpeningAt_swap h hr hmeets.1

/-! ### Counts and signs -/

/-- Behind the question mark that makes a quantifier prefer less. -/
def passMark (s : Scanner) : Scanner :=
  if s.rest.head? = some '?' then s.bump else s

theorem passSign_eq (s : Scanner) : passSign s = passMark s.bump := rfl

theorem reaches_passMark (s : Scanner) : s.Reaches (passMark s) := by
  rw [passMark]
  split
  · exact s.reaches_bump
  · exact .refl _

theorem passMark_swap (hr : r <:+ (passMark s).rest)
    (hjoins : Joins r v) :
    passMark (s.swap r v d) = (passMark s).swap r v d := by
  rw [passMark] at hr ⊢
  rcases eq_or_exists_cons (hr.trans (reaches_passMark s).suffix) with hs | ⟨c, cs, hs, hcs⟩
  · have hmark : s.rest.head? ≠ some '?' := fun hmark => by
      obtain ⟨cs, hcs⟩ := exists_rest_of_head? hmark
      rw [if_pos hmark] at hr
      have hle := hr.length_le
      have hlt := length_bump hcs
      rw [hs] at hlt
      omega
    have hmarkSwap := head?_swap_ne (d := d) (hs ▸ List.suffix_rfl) hjoins (by decide) hmark
    rw [passMark, if_neg hmark, if_neg hmarkSwap]
  · have hhead : (s.swap r v d).rest.head? = s.rest.head? := by rw [head?_swap hs hcs, hs, List.head?_cons]
    rw [passMark, hhead]
    split
    · exact bump_swap hs hcs
    · rfl

theorem readCount_eq_some_iff {n : Nat} : readCount s = some (n, t) ↔
    ∃ blanks u digits w, s.take isBlank = (blanks, u) ∧ u.takeSpaced Char.isDigit = (digits, w) ∧ digits ≠ [] ∧
      (w.takeSpaced isBlank).2 = t ∧ digits.foldl (fun n c => 10 * n + (c.toNat - '0'.toNat)) 0 = n ∧ n < Nat.pow 2 32 := by
  rw [readCount]
  cases htake : s.take isBlank with
  | mk blanks u =>
      cases hdigits : u.takeSpaced Char.isDigit with
      | mk digits w =>
          simp only [bind, Option.bind_eq_some_iff, Option.guard_eq_some', pure, Option.some.injEq, Prod.mk.injEq, hdigits]
          grind

theorem reaches_readCount {n : Nat} (h : readCount s = some (n, t)) : s.Reaches t := by
  obtain ⟨blanks, u, digits, w, htake, hdigits, -, rfl, -, -⟩ := readCount_eq_some_iff.1 h
  have hw := reaches_takeSpaced Char.isDigit u
  rw [hdigits] at hw
  exact ((take_eq_iff.1 htake).1.reaches.trans hw).trans (reaches_takeSpaced isBlank w)

theorem readCount_swap_cons {n : Nat} (h : readCount s = some (n, t)) (hr : c :: r <:+ t.rest) :
    readCount (s.swap (c :: r) (c :: v) d) = some (n, t.swap (c :: r) (c :: v) d) := by
  obtain ⟨blanks, u, digits, w, htake, hdigits, hne, rfl, hn⟩ := readCount_eq_some_iff.1 h
  have hrw : c :: r <:+ w.rest := hr.trans (reaches_takeSpaced isBlank w).suffix
  -- Blanks stop before a digit, which stays.
  obtain ⟨c', cs, hu, hcs⟩ : ∃ c' cs, u.rest = c' :: cs ∧ c :: r <:+ cs := by
    cases hu : u.rest with
    | nil =>
        rw [takeSpaced_nil _ hu] at hdigits
        exact absurd (Prod.mk.inj hdigits).1.symm hne
    | cons c' cs =>
        refine ⟨c', cs, rfl, ?_⟩
        rw [takeSpaced_cons _ hu] at hdigits
        split at hdigits
        · obtain ⟨-, rfl⟩ := Prod.mk.inj hdigits
          exact suffix_of_advance hu (hrw.trans (reaches_takeSpaced Char.isDigit u.advance).suffix)
        · exact absurd (Prod.mk.inj hdigits).1.symm hne
  have hdigitsSwap := takeSpaced_swap_cons (v := v) (d := d) Char.isDigit (by rw [hdigits]; exact hrw)
  rw [hdigits] at hdigitsSwap
  refine readCount_eq_some_iff.2 ⟨blanks, _, digits, _, take_swap htake hu hcs, hdigitsSwap, hne, ?_, hn⟩
  rw [takeSpaced_swap_cons isBlank hr]

theorem readRangeEnd_eq_some_iff {least : Nat} {range : RepetitionRange} : readRangeEnd least s = some (range, t) ↔
    (s.rest.head? = some ',' ∧ s.advance.rest ≠ [] ∧
      (s.advance.rest.head? = some '}' ∧ .atLeast least = range ∧ s.advance = t ∨
        s.advance.rest.head? ≠ some '}' ∧ ∃ most, readCount s.advance = some (most, t) ∧ least ≤ most ∧
          .bounded least most = range)) ∨
    s.rest.head? ≠ some ',' ∧ .exactly least = range ∧ s = t := by
  rw [readRangeEnd]
  split
  next cs hs =>
    by_cases hbrace : s.advance.rest.head? = some '}'
    · simp [hs, hbrace, Option.bind_eq_some_iff, pure]
    · simp only [hs, hbrace, bind, Option.bind_eq_some_iff, Option.guard_eq_some', pure, Option.some.injEq,
        Prod.mk.injEq, Prod.exists, if_false, List.head?_cons, true_and, not_true, false_and, or_false, false_or, ne_eq,
        not_false_eq_true]
      constructor
      · rintro ⟨-, hne, most, u, hcount, -, hle, rfl, rfl⟩
        exact ⟨hne, most, hcount, hle, rfl⟩
      · rintro ⟨hne, most, hcount, hle, rfl⟩
        exact ⟨(), hne, most, t, hcount, (), hle, rfl, rfl⟩
  next hs =>
    have hcomma : s.rest.head? ≠ some ',' := fun hcomma => by
      obtain ⟨cs, hcs⟩ := exists_rest_of_head? hcomma
      exact hs cs hcs
    simp [hcomma, pure]

theorem reaches_readRangeEnd {least : Nat} {range : RepetitionRange} (h : readRangeEnd least s = some (range, t)) :
    s.Reaches t := by
  rcases readRangeEnd_eq_some_iff.1 h with ⟨-, -, ⟨-, -, rfl⟩ | ⟨-, most, hcount, -⟩⟩ | ⟨-, -, rfl⟩
  · exact s.reaches_advance
  · exact s.reaches_advance.trans (reaches_readCount hcount)
  · exact .refl _

theorem readRangeEnd_swap_cons {least : Nat} {range : RepetitionRange} (h : readRangeEnd least s = some (range, t))
    (hr : c :: r <:+ t.rest) :
    readRangeEnd least (s.swap (c :: r) (c :: v) d) = some (range, t.swap (c :: r) (c :: v) d) := by
  refine readRangeEnd_eq_some_iff.2 ((readRangeEnd_eq_some_iff.1 h).imp ?_ ?_)
  · rintro ⟨hcomma, -, hend⟩
    obtain ⟨cs, hs⟩ := exists_rest_of_head? hcomma
    have hadvance : c :: r <:+ s.advance.rest := by
      rcases hend with ⟨-, -, rfl⟩ | ⟨-, most, hcount, -⟩
      · exact hr
      · exact hr.trans (reaches_readCount hcount).suffix
    rw [advance_swap hs (meets_cons _ _ _) hadvance, head?_swap_cons hadvance,
      head?_swap_cons (hadvance.trans s.reaches_advance.suffix)]
    refine ⟨hcomma, rest_swap_ne_nil (List.cons_ne_nil _ _), hend.imp ?_ ?_⟩
    · rintro ⟨hbrace, rfl, rfl⟩
      exact ⟨hbrace, rfl, rfl⟩
    · rintro ⟨hbrace, most, hcount, hle, rfl⟩
      exact ⟨hbrace, most, readCount_swap_cons hcount hr, hle, rfl⟩
  · rintro ⟨hcomma, rfl, rfl⟩
    exact ⟨by rwa [head?_swap_cons hr], rfl, rfl⟩

theorem readRange_eq_some_iff {range : RepetitionRange} : readRange s = some (range, t) ↔
    ∃ least u w, readCount s.advance = some (least, u) ∧ readRangeEnd least u = some (range, w) ∧
      w.rest.head? = some '}' ∧ passMark w.advance = t := by
  simp only [readRange, bind, Option.bind_eq_some_iff, Option.guard_eq_some', pure, Option.some.injEq, Prod.mk.injEq]
  constructor
  · rintro ⟨⟨least, u⟩, hcount, ⟨_, w⟩, hend, -, hclose, rfl, rfl⟩
    exact ⟨least, u, w, hcount, hend, hclose, rfl⟩
  · rintro ⟨least, u, w, hcount, hend, hclose, rfl⟩
    exact ⟨(least, u), hcount, (_, w), hend, (), hclose, rfl, rfl⟩

theorem reaches_readRange {range : RepetitionRange} (h : readRange s = some (range, t)) : s.advance.Reaches t := by
  obtain ⟨least, u, w, hcount, hend, -, rfl⟩ := readRange_eq_some_iff.1 h
  exact (((reaches_readCount hcount).trans (reaches_readRangeEnd hend)).trans w.reaches_advance).trans
    (reaches_passMark w.advance)

/-- A count in braces is read in the same way whatever comes behind it. -/
theorem readRange_swap {range : RepetitionRange} (hs : s.rest = c :: cs) (h : readRange s = some (range, t))
    (hmeets : s.Meets r v) (hr : r <:+ t.rest) : readRange (s.swap r v d) = some (range, t.swap r v d) := by
  obtain ⟨least, u, w, hcount, hend, hclose, rfl⟩ := readRange_eq_some_iff.1 h
  obtain ⟨cs', hw⟩ := exists_rest_of_head? hclose
  have hadvance : r <:+ w.advance.rest := hr.trans (reaches_passMark w.advance).suffix
  have hcs' := suffix_of_advance hw hadvance
  -- The brace stays, and up to it the ends do not count.
  obtain ⟨c', hc'⟩ := exists_cons_suffix_cons hcs' '}'
  rw [← hw] at hc'
  have hru := hc'.trans (reaches_readRangeEnd hend).suffix
  have hrs := hru.trans (reaches_readCount hcount).suffix
  have hreaches := (s.reaches_advance.trans (reaches_readCount hcount)).trans (reaches_readRangeEnd hend)
  have hcountSwap : readCount (s.swap r v d).advance = some (least, u.swap r v d) := by
    have hrest : r <:+ s.advance.rest := (List.suffix_cons c' r).trans hrs
    rw [advance_swap hs (hmeets.mono s.reaches_bump.suffix) hrest, ← swap_cons hrs, ← swap_cons hru]
    exact readCount_swap_cons hcount hru
  have hendSwap : readRangeEnd least (u.swap r v d) = some (range, w.swap r v d) := by
    rw [← swap_cons hru, ← swap_cons hc']
    exact readRangeEnd_swap_cons hend hc'
  refine readRange_eq_some_iff.2 ⟨least, _, _, hcountSwap, hendSwap, head?_swap hw hcs', ?_⟩
  rw [advance_swap hw (hmeets.mono (hreaches.trans w.reaches_bump).suffix) hadvance]
  exact passMark_swap hr hmeets.1

theorem passSign_swap (hs : s.rest = c :: cs) (hr : r <:+ (passSign s).rest)
    (hjoins : Joins r v) :
    passSign (s.swap r v d) = (passSign s).swap r v d := by
  rw [passSign_eq] at hr ⊢
  have hcs : r <:+ cs := rest_bump hs ▸ hr.trans (reaches_passMark s.bump).suffix
  rw [bump_swap hs hcs]
  exact passMark_swap hr hjoins

end Attest.Regex

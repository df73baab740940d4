import Attest.Regex.Reader
import Attest.Proofs.Regex.Locality.Escape
import Mathlib.Data.List.Basic

/-!
Classes in brackets do not depend on what comes behind the closing bracket. Inside, a reader may look further ahead: past
blanks for the end of a range, and up to a colon for the name of a class. It never has to look past a closing
bracket, though, since this is no blank and in no name; so it is enough that two texts agree up to there.
-/

namespace Attest.Regex

open Scanner

variable {s t u : Scanner} {r v : List Char} {d : Nat}

namespace Scanner

/-- An end of a text may be made longer by what is before it. -/
theorem swap_of_suffix {x : List Char} (hx : x <:+ s.rest) (hr : r <:+ x) :
    s.swap x (swapEnd r v x) d = s.swap r v d := by
  obtain ⟨w, hw⟩ := hx
  obtain ⟨y, rfl⟩ := hr
  simp only [swap, ← hw, swapEnd_append, mk.injEq, and_self, and_true]
  rw [← List.append_assoc, ← List.append_assoc, swapEnd_append]

/-- Up to a closing bracket blanks are passed over in the same way, whatever comes behind. -/
theorem look_bracket (b : Bool) (w r v : List Char) :
    peekSpaced.look b (w ++ ']' :: r) = peekSpaced.look b (w ++ ']' :: v) ∧ peekSpaced.look b (w ++ ']' :: r) ≠ none := by
  induction w generalizing b with
  | nil => simp [peekSpaced.look, show isBlank ']' = false by decide]
  | cons c w ih =>
      rw [List.cons_append, List.cons_append, peekSpaced.look, peekSpaced.look]
      split_ifs
      · exact ih b
      · exact ih true
      · exact ⟨rfl, Option.some_ne_none _⟩

theorem peekSpaced_swap {c : Char} {cs : List Char} (hs : s.rest = c :: cs) (hr : ']' :: r <:+ cs) :
    (s.swap (']' :: r) (']' :: v) d).peekSpaced = s.peekSpaced := by
  obtain ⟨w, rfl⟩ := hr
  have hrest : (s.swap (']' :: r) (']' :: v) d).rest = c :: (w ++ ']' :: v) := by
    rw [rest_swap hs (List.suffix_append w _), swapEnd_append]
  have hhead : (w ++ ']' :: v).head? = (w ++ ']' :: r).head? := by cases w <;> rfl
  rw [peekSpaced, peekSpaced, hs, hrest]
  simp only [swap, (look_bracket false w r v).1, hhead]

end Scanner

/-! ### Named classes -/

/-- A named class as it is written. -/
def namedText (negated : Bool) (name : String) : List Char :=
  "[:".toList ++ ((if negated then ['^'] else []) ++ (name.toList ++ ":]".toList))

/-- The mark in front of a name, if there is one, is passed over. -/
theorem passes_mark (s : Scanner) : s.Passes (if decide (s.rest.head? = some '^') then ['^'] else [])
    (if s.rest.head? = some '^' then s.bump else s) := by
  by_cases hmark : s.rest.head? = some '^'
  · obtain ⟨cs, hs⟩ := exists_rest_of_head? hmark
    rw [decide_eq_true hmark, if_pos rfl, if_pos hmark]
    exact passes_bump hs
  · rw [decide_eq_false hmark, if_neg Bool.false_ne_true, if_neg hmark]
    exact ⟨rfl, rfl⟩

theorem mark_of_passes {negated : Bool} (h : s.Passes (if negated then ['^'] else []) t) (ht : t.rest.head? ≠ some '^') :
    decide (s.rest.head? = some '^') = negated ∧ (if s.rest.head? = some '^' then s.bump else s) = t := by
  cases negated with
  | true =>
      have hrest : s.rest = '^' :: t.rest := h.rest
      rw [hrest, List.head?_cons, if_pos rfl]
      exact ⟨decide_eq_true rfl, (passes_bump hrest).unique h⟩
  | false =>
      obtain rfl : s = t := Passes.unique ⟨rfl, rfl⟩ h
      exact ⟨decide_eq_false ht, if_neg ht⟩

theorem passes_of_readNamedClass? {item : ClassNode} (h : readNamedClass? s = some (item, t)) :
    ∃ negated, ∃ name ∈ classNames, .named name negated = item ∧ s.Passes (namedText negated name) t := by
  simp only [readNamedClass?, bind, Option.bind_eq_some_iff, Option.guard_eq_some', pure, Option.some.injEq,
    Prod.mk.injEq] at h
  obtain ⟨u, hu, -, -, w, hw, -, hname, rfl, rfl⟩ := h
  refine ⟨_, _, hname, rfl, (past?_eq_some_iff.1 hu).append ?_⟩
  rw [String.toList_ofList]
  obtain ⟨htake, -, -⟩ := take_eq_iff.1 (rfl : _ = (_, _))
  exact (passes_mark u).append (htake.append (past?_eq_some_iff.1 hw))

theorem plain_of_mem_classNames {name : String} (h : name ∈ classNames) :
    name.toList.head? ≠ some '^' ∧ name.toList ≠ [] ∧ ∀ c ∈ name.toList, (c != ':') = true := by
  have hnames : ∀ name ∈ classNames, name.toList.head? ≠ some '^' ∧ name.toList ≠ [] ∧
      ∀ c ∈ name.toList, (c != ':') = true := by
    simp [classNames]
  exact hnames name h

theorem readNamedClass?_of_passes {negated : Bool} {name : String} (hname : name ∈ classNames)
    (h : s.Passes (namedText negated name) t) : readNamedClass? s = some (.named name negated, t) := by
  obtain ⟨u, hu, h⟩ := h.split
  obtain ⟨w, hw, h⟩ := h.split
  obtain ⟨x, hx, h⟩ := h.split
  obtain ⟨hplain, hne, hcolon⟩ := plain_of_mem_classNames hname
  have htake : w.take (· != ':') = (name.toList, x) := by
    refine take_eq_iff.2 ⟨hx, hcolon, fun c hc => ?_⟩
    rw [h.rest] at hc
    obtain rfl := Option.some.inj hc
    rfl
  obtain ⟨hnegated, hpast⟩ := mark_of_passes hw (by rwa [hx.rest, List.head?_append_of_ne_nil _ hne])
  have hmore : u.rest ≠ [] := by
    rw [hw.rest, hx.rest]
    simp [hne]
  simp only [readNamedClass?, bind, Option.bind_eq_some_iff, Option.guard_eq_some', pure, Option.some.injEq,
    Prod.mk.injEq]
  refine ⟨u, past?_eq_some_iff.2 hu, (), hmore, t, ?_⟩
  rw [hpast, htake, hnegated]
  exact ⟨past?_eq_some_iff.2 h, (), by rwa [String.ofList_toList], by rw [String.ofList_toList], rfl⟩

theorem readNamedClass?_eq_some_iff {item : ClassNode} : readNamedClass? s = some (item, t) ↔
    ∃ negated, ∃ name ∈ classNames, .named name negated = item ∧ s.Passes (namedText negated name) t := by
  constructor
  · exact passes_of_readNamedClass?
  · rintro ⟨negated, name, hname, rfl, h⟩
    exact readNamedClass?_of_passes hname h

/-- A text that has a character only at its end stands at the front of another one up to where that one has it. -/
theorem exists_append_of_cons {c : Char} {ds w v : List Char} (hds : c ∉ ds)
    (h : ds ++ [c] <+: w ++ c :: v) : ∃ es, w ++ [c] = ds ++ [c] ++ es := by
  obtain ⟨rest, hrest⟩ := h
  rw [List.append_assoc, List.singleton_append] at hrest
  rcases List.append_eq_append_iff.1 hrest with ⟨es, rfl, hes⟩ | ⟨es, rfl, hes⟩
  · cases es with
    | nil => exact ⟨[], by simp⟩
    | cons c' es =>
        obtain ⟨rfl, -⟩ := List.cons.inj hes
        exact ⟨es ++ [c], by simp⟩
  · cases es with
    | nil => exact ⟨[], by simp⟩
    | cons c' es =>
        obtain ⟨rfl, -⟩ := List.cons.inj hes
        simp at hds

theorem reaches_readNamedClass? {item : ClassNode} (h : readNamedClass? s = some (item, t)) : s.Reaches t := by
  obtain ⟨_, _, _, _, hpasses⟩ := readNamedClass?_eq_some_iff.1 h
  exact hpasses.reaches

theorem readNamedClass?_swap {item : ClassNode} (h : readNamedClass? s = some (item, t)) (hr : r <:+ t.rest) :
    readNamedClass? (s.swap r v d) = some (item, t.swap r v d) := by
  obtain ⟨negated, name, hname, hitem, hpasses⟩ := readNamedClass?_eq_some_iff.1 h
  exact readNamedClass?_eq_some_iff.2 ⟨negated, name, hname, hitem, hpasses.swap hr⟩

/-- That there is no named class is seen before the next closing bracket. -/
theorem readNamedClass?_swap_eq_none (h : readNamedClass? s = none) (hr : ']' :: r <:+ s.rest) :
    readNamedClass? (s.swap (']' :: r) (']' :: v) d) = none := by
  rw [Option.eq_none_iff_forall_ne_some] at h ⊢
  rintro ⟨item, t⟩ hread
  obtain ⟨negated, name, hname, hitem, hpasses⟩ := readNamedClass?_eq_some_iff.1 hread
  obtain ⟨w, hw⟩ := hr
  have hnames : ∀ negated, ∀ name ∈ classNames,
      ']' ∉ (namedText negated name).dropLast ∧ (namedText negated name).getLast? = some ']' := by decide
  obtain ⟨hinside, hlast⟩ := hnames negated name hname
  have htext : namedText negated name = (namedText negated name).dropLast ++ [']'] :=
    (List.dropLast_append_getLast? _ hlast).symm
  have hfront : (namedText negated name).dropLast ++ [']'] <+: w ++ ']' :: v := by
    rw [← htext]
    refine ⟨t.rest, ?_⟩
    rw [← hpasses.rest, swap, ← hw, swapEnd_append]
  obtain ⟨es, hes⟩ := exists_append_of_cons hinside hfront
  have hrest : s.rest = namedText negated name ++ (es ++ r) := by
    calc s.rest = (w ++ [']']) ++ r := by rw [← hw, List.append_assoc, List.singleton_append]
      _ = namedText negated name ++ (es ++ r) := by rw [hes, ← htext, List.append_assoc]
  exact h _ (readNamedClass?_eq_some_iff.2 ⟨negated, name, hname, hitem, passes_drop hrest⟩)

/-! ### Characters and ranges -/

theorem readClassAtom_eq_some_iff {item : ClassNode} : readClassAtom s = some (item, t) ↔
    (∃ cs, s.rest = '\\' :: cs ∧ ∃ e, Escape.read s = some (e, t) ∧
      ((∃ l, e = .literal l ∧ .literal l = item) ∨ e = .charClass item)) ∨
    ∃ c cs, s.rest = c :: cs ∧ c ≠ '\\' ∧ .literal ⟨c, false⟩ = item ∧ s.bump = t := by
  rw [readClassAtom]
  split
  next hs => simp [hs]
  next cs hs =>
    simp only [hs, bind, Option.bind_eq_some_iff, Prod.exists]
    constructor
    · rintro ⟨e, u, hread, hitem⟩
      refine .inl ⟨cs, rfl, e, ?_⟩
      cases e with
      | literal l =>
          obtain ⟨rfl, rfl⟩ := Prod.mk.inj (Option.some.inj hitem)
          exact ⟨hread, .inl ⟨l, rfl, rfl⟩⟩
      | charClass c =>
          obtain ⟨rfl, rfl⟩ := Prod.mk.inj (Option.some.inj hitem)
          exact ⟨hread, .inr rfl⟩
      | assertion kind => cases hitem
    · rintro (⟨_, _, e, hread, ⟨l, rfl, rfl⟩ | rfl⟩ | ⟨c, _, heq, hc, -⟩)
      · exact ⟨_, t, hread, rfl⟩
      · exact ⟨_, t, hread, rfl⟩
      · exact absurd (List.cons.inj heq).1.symm hc
  next c cs hslash hs => simp [hs, show c ≠ '\\' from hslash]

theorem reaches_readClassAtom {item : ClassNode} (h : readClassAtom s = some (item, t)) : s.bump.Reaches t := by
  rcases readClassAtom_eq_some_iff.1 h with ⟨cs, hs, e, hread, -⟩ | ⟨c, cs, hs, -, -, rfl⟩
  · exact s.bump.reaches_bump.trans (Escape.reaches_read hread)
  · exact .refl _

theorem readClassAtom_swap {item : ClassNode} (h : readClassAtom s = some (item, t)) (hmeets : s.Meets r v)
    (hr : r <:+ t.rest) : readClassAtom (s.swap r v d) = some (item, t.swap r v d) := by
  have hreaches := reaches_readClassAtom h
  refine readClassAtom_eq_some_iff.2 ((readClassAtom_eq_some_iff.1 h).imp ?_ ?_)
  · rintro ⟨cs, hs, e, hread, hitem⟩
    have hcs : r <:+ cs := rest_bump hs ▸ hr.trans hreaches.suffix
    refine ⟨_, rest_swap hs hcs, e, Escape.read_swap hs hread ?_ hr fun kind hkind => ?_, hitem⟩
    · exact hmeets.mono (s.reaches_bump.trans s.bump.reaches_bump).suffix
    · rcases hitem with ⟨l, rfl, -⟩ | rfl <;> cases hkind
  · rintro ⟨c, cs, hs, hc, hitem, rfl⟩
    have hcs : r <:+ cs := rest_bump hs ▸ hr
    exact ⟨c, _, rest_swap hs hcs, hc, hitem, bump_swap hs hcs⟩

/-- No range goes on here: a dash is missing, or stands for itself. -/
def EndsRange (s : Scanner) : Prop :=
  s.rest.head? ≠ some '-' ∨ s.peekSpaced = some ']' ∨ s.peekSpaced = some '-'

theorem readClassRange_eq_some_iff {item : ClassNode} : readClassRange s = some (item, t) ↔
    ∃ first u, readClassAtom s = some (first, u) ∧ u.skip.rest ≠ [] ∧
      (EndsRange u.skip ∧ first = item ∧ u.skip = t ∨
        ¬EndsRange u.skip ∧ ∃ l last, readClassAtom u.skip.advance = some (.literal last, t) ∧ first = .literal l ∧
          l.char ≤ last.char ∧ .range l last = item) := by
  simp only [readClassRange, bind, Option.bind_eq_some_iff, Option.guard_eq_some', Prod.exists]
  refine exists_congr fun first => exists_congr fun u => and_congr_right fun _ => ?_
  simp only [exists_and_left, exists_const, and_congr_right_iff]
  intro _
  split
  next hends =>
    have hends : EndsRange u.skip := hends
    simp [hends, pure]
  next hends =>
    have hends : ¬EndsRange u.skip := hends
    simp only [hends, false_and, not_false_eq_true, true_and, false_or, Option.bind_eq_some_iff]
    constructor
    · rintro ⟨⟨last, w⟩, hread, hitem⟩
      split at hitem
      next l last' w' heq _ =>
        obtain ⟨rfl, rfl⟩ := Prod.mk.inj heq
        simp only [Option.bind_eq_some_iff, Option.guard_eq_some', pure, Option.some.injEq, Prod.mk.injEq] at hitem
        obtain ⟨-, hle, rfl, rfl⟩ := hitem
        exact ⟨l, last', hread, rfl, hle, rfl⟩
      next => cases hitem
    · rintro ⟨l, last, hread, rfl, hle, rfl⟩
      exact ⟨_, hread, by simp [hle, pure]⟩

theorem reaches_readClassRange {item : ClassNode} (h : readClassRange s = some (item, t)) : s.bump.Reaches t := by
  obtain ⟨first, u, hfirst, -, ⟨-, -, rfl⟩ | ⟨-, l, last, hlast, -⟩⟩ := readClassRange_eq_some_iff.1 h
  · exact (reaches_readClassAtom hfirst).trans u.reaches_skip
  · exact (((reaches_readClassAtom hfirst).trans u.reaches_skip).trans u.skip.reaches_advance).trans
      (u.skip.advance.reaches_bump.trans (reaches_readClassAtom hlast))

theorem endsRange_swap (hr : ']' :: r <:+ s.rest) : EndsRange (s.swap (']' :: r) (']' :: v) d) ↔ EndsRange s := by
  rcases eq_or_exists_cons hr with hs | ⟨c, cs, hs, hcs⟩
  · have hswap := rest_swap_self (v := ']' :: v) (d := d) hs
    refine iff_of_true (.inl ?_) (.inl ?_)
    · rw [hswap]
      simp
    · rw [hs]
      simp
  · rw [EndsRange, EndsRange, peekSpaced_swap hs hcs, head?_swap hs hcs, hs, List.head?_cons]

theorem readClassRange_swap {item : ClassNode} (h : readClassRange s = some (item, t)) (hr : ']' :: r <:+ t.rest) :
    readClassRange (s.swap (']' :: r) (']' :: v) d) = some (item, t.swap (']' :: r) (']' :: v) d) := by
  have hmeets (s : Scanner) : s.Meets (']' :: r) (']' :: v) := meets_cons _ r v
  obtain ⟨first, u, hfirst, -, hitem⟩ := readClassRange_eq_some_iff.1 h
  have hskip : ']' :: r <:+ u.skip.rest := by
    rcases hitem with ⟨-, -, rfl⟩ | ⟨-, l, last, hlast, -⟩
    · exact hr
    · exact hr.trans (((u.skip.reaches_advance).trans
        (u.skip.advance.reaches_bump.trans (reaches_readClassAtom hlast))).suffix)
  have hswap := skip_swap (d := d) (hmeets u) hskip
  refine readClassRange_eq_some_iff.2 ⟨first, _,
    readClassAtom_swap hfirst (hmeets s) (hskip.trans u.reaches_skip.suffix), ?_, ?_⟩
  · rw [hswap]
    exact rest_swap_ne_nil (List.cons_ne_nil _ _)
  · rw [hswap, endsRange_swap hskip]
    refine hitem.imp ?_ ?_
    · rintro ⟨hends, rfl, rfl⟩
      exact ⟨hends, rfl, rfl⟩
    · rintro ⟨hends, l, last, hlast, rfl, hle, rfl⟩
      have hadvance : ']' :: r <:+ u.skip.advance.rest :=
        hr.trans (u.skip.advance.reaches_bump.trans (reaches_readClassAtom hlast)).suffix
      obtain ⟨cs, hs⟩ := exists_rest_of_head? (not_not.1 fun hdash => hends (.inl hdash))
      refine ⟨hends, l, last, ?_, rfl, hle, rfl⟩
      rw [advance_swap hs (hmeets _) hadvance]
      exact readClassAtom_swap hlast (hmeets _) hr

/-! ### The start of a class -/

/-- Behind the opening bracket, and behind the sign of a negation. -/
def bracketBody (s : Scanner) : Scanner :=
  if s.advance.rest.head? = some '^' then s.advance.advance else s.advance

theorem reaches_bracketBody (s : Scanner) : s.advance.Reaches (bracketBody s) := by
  rw [bracketBody]
  split
  · exact s.advance.reaches_advance
  · exact .refl _

theorem readBracketStart_eq_some_iff {negated : Bool} {items : List ClassNode} :
    readBracketStart s = some (negated, items, t) ↔
      decide (s.advance.rest.head? = some '^') = negated ∧ (bracketBody s).rest ≠ [] ∧
      ∃ ds u, (bracketBody s).takeSpaced (· == '-') = (ds, u) ∧ u.rest ≠ [] ∧
        (ds = [] ∧ u.rest.head? = some ']' ∧ u.advance.rest ≠ [] ∧ [.literal ⟨']', false⟩] = items ∧ u.advance = t ∨
          ¬(ds = [] ∧ u.rest.head? = some ']') ∧ ds.map (fun c => .literal ⟨c, false⟩) = items ∧ u = t) := by
  rw [readBracketStart]
  simp only
  rw [← bracketBody]
  cases htake : (bracketBody s).takeSpaced (· == '-') with
  | mk ds u =>
      by_cases hbracket : ds = [] ∧ u.rest.head? = some ']'
      · simp only [readDashes, htake, hbracket.1, hbracket.2, bind, Option.bind_eq_some_iff, pure, Option.guard_eq_some',
          List.map_nil, List.isEmpty_nil, and_self, if_true]
        grind
      · simp only [readDashes, htake, List.isEmpty_map, List.isEmpty_iff, hbracket, bind, Option.bind_eq_some_iff, pure,
          Option.guard_eq_some', if_false]
        grind

theorem reaches_readBracketStart {negated : Bool} {items : List ClassNode}
    (h : readBracketStart s = some (negated, items, t)) : s.advance.Reaches t := by
  obtain ⟨-, -, ds, u, htake, -, hu⟩ := readBracketStart_eq_some_iff.1 h
  have hreaches := (reaches_bracketBody s).trans (reaches_takeSpaced (· == '-') (bracketBody s))
  rw [htake] at hreaches
  rcases hu with ⟨-, -, -, -, rfl⟩ | ⟨-, -, rfl⟩
  · exact hreaches.trans u.reaches_advance
  · exact hreaches

theorem readBracketStart_swap {negated : Bool} {items : List ClassNode} {c : Char} {cs : List Char} (hs : s.rest = c :: cs)
    (h : readBracketStart s = some (negated, items, t)) (hr : ']' :: r <:+ t.rest) :
    readBracketStart (s.swap (']' :: r) (']' :: v) d) = some (negated, items, t.swap (']' :: r) (']' :: v) d) := by
  have hmeets (s : Scanner) : s.Meets (']' :: r) (']' :: v) := meets_cons _ r v
  have hmore (s : Scanner) : (s.swap (']' :: r) (']' :: v) d).rest ≠ [] := rest_swap_ne_nil (List.cons_ne_nil _ _)
  obtain ⟨hnegated, -, ds, u, htake, -, hu⟩ := readBracketStart_eq_some_iff.1 h
  have hru : ']' :: r <:+ u.rest := by
    rcases hu with ⟨-, -, -, -, rfl⟩ | ⟨-, -, rfl⟩
    · exact hr.trans u.reaches_advance.suffix
    · exact hr
  have hreaches := reaches_takeSpaced (· == '-') (bracketBody s)
  rw [htake] at hreaches
  have hbody : ']' :: r <:+ (bracketBody s).rest := hru.trans hreaches.suffix
  have hadvance := hbody.trans (reaches_bracketBody s).suffix
  have hswap : (s.swap (']' :: r) (']' :: v) d).advance = s.advance.swap (']' :: r) (']' :: v) d :=
    advance_swap hs (hmeets _) hadvance
  have hbodySwap : bracketBody (s.swap (']' :: r) (']' :: v) d) = (bracketBody s).swap (']' :: r) (']' :: v) d := by
    rw [bracketBody] at hbody
    rw [bracketBody, bracketBody, hswap, head?_swap_cons hadvance]
    split
    next hnegation =>
      rw [if_pos hnegation] at hbody
      obtain ⟨cs', hs'⟩ := exists_rest_of_head? hnegation
      exact advance_swap hs' (hmeets _) hbody
    next => rfl
  have htakeSwap := takeSpaced_swap_cons (v := v) (d := d) (· == '-') (by rw [htake]; exact hru)
  rw [htake] at htakeSwap
  refine readBracketStart_eq_some_iff.2 ⟨?_, hbodySwap ▸ hmore _, ds, _, by rw [hbodySwap, htakeSwap], hmore _, ?_⟩
  · rw [hswap, head?_swap_cons hadvance, hnegated]
  · rw [head?_swap_cons hru]
    refine hu.imp ?_ ?_
    · rintro ⟨hds, hclose, -, rfl, rfl⟩
      obtain ⟨cs', hs'⟩ := exists_rest_of_head? hclose
      have hswap := advance_swap (d := d) hs' (hmeets _) hr
      exact ⟨hds, hclose, by rw [hswap]; exact hmore _, rfl, hswap⟩
    · rintro ⟨hno, rfl, rfl⟩
      exact ⟨hno, rfl, rfl⟩

/-! ### The inside of a class -/

/-- What comes next inside a class. -/
inductive ClassSign
  | close
  | operator (op : SetOperation)
  | bracket
  | item

def classSign? : List Char → Option ClassSign
  | [] => none
  | ']' :: _ => some .close
  | '&' :: '&' :: _ => some (.operator .inter)
  | '-' :: '-' :: _ => some (.operator .diff)
  | '~' :: '~' :: _ => some (.operator .symmDiff)
  | '[' :: _ => some .bracket
  | _ => some .item

theorem classSign?_congr {c : Char} {cs cs' : List Char} (h : cs'.head? = cs.head?) :
    classSign? (c :: cs') = classSign? (c :: cs) := by
  unfold classSign?
  cases cs <;> cases cs' <;> grind

theorem classSign?_swap (hr : ']' :: r <:+ s.rest) :
    classSign? (s.swap (']' :: r) (']' :: v) d).rest = classSign? s.rest := by
  rcases eq_or_exists_cons hr with hs | ⟨c, cs, hs, hcs⟩
  · rw [rest_swap_self hs, hs]
    rfl
  · rw [rest_swap hs hcs, hs]
    obtain ⟨w, rfl⟩ := hcs
    rw [swapEnd_append]
    refine classSign?_congr ?_
    cases w <;> rfl

/-- One step inside a class. -/
theorem readClass_succ (fuel : Nat) (left : Option (SetOperation × ClassNode)) (items : List ClassNode) (s : Scanner) :
    readClass (fuel + 1) left items s =
      (match classSign? s.skip.rest with
      | none => none
      | some .close => some (.close left items, s.skip.bump)
      | some (.operator op) => readClass fuel (some (op, .close left items)) [] (s.skip.drop 2)
      | some .bracket =>
          match readNamedClass? s.skip with
          | some (item, t) => readClass fuel left (item :: items) t
          | none => do
              let (negated, start, t) ← readBracketStart s.skip
              let (body, u) ← readClass fuel none start.reverse t
              readClass fuel left (.bracket body negated :: items) u
      | some .item => do
          let (item, t) ← readClassRange s.skip
          readClass fuel left (item :: items) t) := by
  rw [readClass]
  unfold classSign?
  grind

theorem exists_rest_of_operator {cs : List Char} {op : SetOperation} (h : classSign? cs = some (.operator op)) :
    ∃ c c' rest, cs = c :: c' :: rest := by
  unfold classSign? at h
  grind

theorem exists_rest_of_classSign? {cs : List Char} {sign : ClassSign} (h : classSign? cs = some sign) :
    ∃ c rest, cs = c :: rest := by
  cases cs with
  | nil => cases h
  | cons c rest => exact ⟨c, rest, rfl⟩

theorem rest_of_close {cs : List Char} (h : classSign? cs = some .close) : ∃ rest, cs = ']' :: rest := by
  unfold classSign? at h
  grind

/-- What is read of the inside of a class ends in a closing bracket. -/
theorem reaches_readClass {fuel : Nat} {left : Option (SetOperation × ClassNode)} {items : List ClassNode}
    {body : ClassNode} (h : readClass fuel left items s = some (body, t)) :
    s.Reaches t ∧ ']' :: t.rest <:+ s.rest := by
  induction fuel generalizing left items body s t with
  | zero => cases h
  | succ fuel ih =>
      rw [readClass_succ] at h
      have hgo {w : Scanner} (hw : s.skip.Reaches w) {left items body} (h : readClass fuel left items w = some (body, t)) :
          s.Reaches t ∧ ']' :: t.rest <:+ s.rest := by
        obtain ⟨hreaches, hclose⟩ := ih h
        exact ⟨(s.reaches_skip.trans hw).trans hreaches, hclose.trans (s.reaches_skip.trans hw).suffix⟩
      split at h
      next => cases h
      next hsign =>
        obtain ⟨-, rfl⟩ := Prod.mk.inj (Option.some.inj h)
        obtain ⟨rest, hrest⟩ := rest_of_close hsign
        refine ⟨s.reaches_skip.trans s.skip.reaches_bump, ?_⟩
        rw [rest_bump hrest, ← hrest]
        exact s.reaches_skip.suffix
      next op hsign =>
        obtain ⟨c, c', rest, hrest⟩ := exists_rest_of_operator hsign
        exact hgo (@passes_drop _ _ [c, c'] hrest).reaches h
      next hsign =>
        obtain ⟨c, rest, hrest⟩ := exists_rest_of_classSign? hsign
        split at h
        next item w hnamed => exact hgo (reaches_readNamedClass? hnamed) h
        next =>
          simp only [bind, Option.bind_eq_some_iff, Prod.exists] at h
          obtain ⟨negated, start, w, hstart, inside, w', hinside, h⟩ := h
          exact hgo ((s.skip.reaches_advance.trans (reaches_readBracketStart hstart)).trans (ih hinside).1) h
      next =>
        simp only [bind, Option.bind_eq_some_iff, Prod.exists] at h
        obtain ⟨item, w, hitem, h⟩ := h
        exact hgo (s.skip.reaches_bump.trans (reaches_readClassRange hitem)) h

section Closed

variable {cs : List Char}

/-- Before a closing bracket it is enough to change what comes behind the bracket. -/
theorem swap_closed (hr : r <:+ cs) (hs : ']' :: cs <:+ s.rest) :
    s.swap r v d = s.swap (']' :: cs) (']' :: swapEnd r v cs) d := by
  rw [← swapEnd_cons hr]
  exact (swap_of_suffix hs (hr.trans (List.suffix_cons _ _))).symm

theorem skip_swap_closed (hr : r <:+ cs) (hs : ']' :: cs <:+ s.skip.rest) : (s.swap r v d).skip = s.skip.swap r v d := by
  rw [swap_closed hr (hs.trans s.reaches_skip.suffix), swap_closed hr hs]
  exact skip_swap (meets_cons _ _ _) hs

theorem classSign?_swap_closed (hr : r <:+ cs) (hs : ']' :: cs <:+ s.rest) :
    classSign? (s.swap r v d).rest = classSign? s.rest := by
  rw [swap_closed hr hs]
  exact classSign?_swap hs

theorem readNamedClass?_swap_closed_eq_none (h : readNamedClass? s = none) (hr : r <:+ cs) (hs : ']' :: cs <:+ s.rest) :
    readNamedClass? (s.swap r v d) = none := by
  rw [swap_closed hr hs]
  exact readNamedClass?_swap_eq_none h hs

theorem readBracketStart_swap_closed {negated : Bool} {items : List ClassNode} {c : Char} {cs' : List Char}
    (hs : s.rest = c :: cs') (h : readBracketStart s = some (negated, items, t)) (hr : r <:+ cs)
    (ht : ']' :: cs <:+ t.rest) : readBracketStart (s.swap r v d) = some (negated, items, t.swap r v d) := by
  have hclosed := ht.trans (s.reaches_advance.trans (reaches_readBracketStart h)).suffix
  rw [swap_closed hr hclosed, swap_closed hr ht]
  exact readBracketStart_swap hs h ht

theorem readClassRange_swap_closed {item : ClassNode} (h : readClassRange s = some (item, t)) (hr : r <:+ cs)
    (ht : ']' :: cs <:+ t.rest) : readClassRange (s.swap r v d) = some (item, t.swap r v d) := by
  have hclosed := ht.trans (s.reaches_bump.trans (reaches_readClassRange h)).suffix
  rw [swap_closed hr hclosed, swap_closed hr ht]
  exact readClassRange_swap h ht

end Closed

/-- The inside of a class is read in the same way whatever comes behind its closing bracket. -/
theorem readClass_swap {fuel fuel' : Nat} {left : Option (SetOperation × ClassNode)} {items : List ClassNode}
    {body : ClassNode} (h : readClass fuel left items s = some (body, t)) (hfuel : fuel ≤ fuel') (hr : r <:+ t.rest) :
    readClass fuel' left items (s.swap r v d) = some (body, t.swap r v d) := by
  induction fuel generalizing fuel' left items body s t with
  | zero => cases h
  | succ fuel ih =>
      obtain ⟨fuel', rfl⟩ : ∃ k, fuel' = k + 1 := ⟨fuel' - 1, by omega⟩
      have ih {left items body s t} (h : readClass fuel left items s = some (body, t)) (hr : r <:+ t.rest) :
          readClass fuel' left items (s.swap r v d) = some (body, t.swap r v d) := ih h (by omega) hr
      rw [readClass_succ] at h ⊢
      split at h
      next => cases h
      next hclose =>
        obtain ⟨rfl, rfl⟩ := Prod.mk.inj (Option.some.inj h)
        obtain ⟨rest, hrest⟩ := rest_of_close hclose
        have hclosed : ']' :: s.skip.bump.rest <:+ s.skip.rest := ⟨[], by rw [rest_bump hrest, hrest, List.nil_append]⟩
        rw [skip_swap_closed hr hclosed, classSign?_swap_closed hr hclosed, hclose, bump_swap hrest (rest_bump hrest ▸ hr)]
      next op hoperator =>
        obtain ⟨c, c', rest, hrest⟩ := exists_rest_of_operator hoperator
        have hclosed := (reaches_readClass h).2
        have hbefore := hclosed.trans (@passes_drop _ _ [c, c'] hrest).reaches.suffix
        have hdrop : (s.skip.swap r v d).drop 2 = (s.skip.drop 2).swap r v d :=
          @drop_swap _ _ _ _ _ [c, c'] hrest ((hr.trans (List.suffix_cons _ _)).trans hclosed)
        rw [skip_swap_closed hr hbefore, classSign?_swap_closed hr hbefore, hoperator]
        simp only
        rw [hdrop]
        exact ih h hr
      next hbracket =>
        obtain ⟨c, rest, hrest⟩ := exists_rest_of_classSign? hbracket
        split at h
        next item w hnamed =>
          have hclosed := (reaches_readClass h).2
          have hbefore := hclosed.trans (reaches_readNamedClass? hnamed).suffix
          rw [skip_swap_closed hr hbefore, classSign?_swap_closed hr hbefore, hbracket]
          simp only
          rw [readNamedClass?_swap hnamed ((hr.trans (List.suffix_cons _ _)).trans hclosed)]
          exact ih h hr
        next hnone =>
          simp only [bind, Option.bind_eq_some_iff, Prod.exists] at h
          obtain ⟨negated, start, w, hstart, inside, w', hinside, h⟩ := h
          have hclosed := (reaches_readClass h).2
          have hinner := hclosed.trans (reaches_readClass hinside).1.suffix
          have hbefore := hinner.trans (s.skip.reaches_advance.trans (reaches_readBracketStart hstart)).suffix
          rw [skip_swap_closed hr hbefore, classSign?_swap_closed hr hbefore, hbracket]
          simp only
          rw [readNamedClass?_swap_closed_eq_none hnone hr hbefore, readBracketStart_swap_closed hrest hstart hr hinner]
          simp only [bind, Option.bind_some]
          rw [ih hinside ((hr.trans (List.suffix_cons _ _)).trans hclosed), Option.bind_some]
          exact ih h hr
      next hitem =>
        simp only [bind, Option.bind_eq_some_iff, Prod.exists] at h
        obtain ⟨item, w, hread, h⟩ := h
        have hclosed := (reaches_readClass h).2
        have hbefore := hclosed.trans (s.skip.reaches_bump.trans (reaches_readClassRange hread)).suffix
        rw [skip_swap_closed hr hbefore, classSign?_swap_closed hr hbefore, hitem]
        simp only
        rw [readClassRange_swap_closed hread hr hclosed]
        exact ih h hr

/-! ### Whole classes -/

theorem readBracket_eq_some_iff {node : ClassNode} : readBracket s = some (node, t) ↔
    ∃ negated start u body, readBracketStart s = some (negated, start, u) ∧
      readClass (u.rest.length + 1) none start.reverse u = some (body, t) ∧ .bracket body negated = node := by
  simp [readBracket, Option.bind_eq_some_iff]

theorem reaches_readBracket {node : ClassNode} (h : readBracket s = some (node, t)) : s.advance.Reaches t := by
  obtain ⟨negated, start, u, body, hstart, hbody, -⟩ := readBracket_eq_some_iff.1 h
  exact (reaches_readBracketStart hstart).trans (reaches_readClass hbody).1

/-- A class is read in the same way whatever comes behind it, as long as that leaves enough steps. -/
theorem readBracket_swap {node : ClassNode} {c : Char} {cs : List Char} (hs : s.rest = c :: cs)
    (h : readBracket s = some (node, t)) (hr : r <:+ t.rest) (hlength : r.length ≤ v.length) :
    readBracket (s.swap r v d) = some (node, t.swap r v d) := by
  obtain ⟨negated, start, u, body, hstart, hbody, rfl⟩ := readBracket_eq_some_iff.1 h
  have hclose := (reaches_readClass hbody).2
  have hru : r <:+ u.rest := (hr.trans (List.suffix_cons _ _)).trans hclose
  have hlonger : u.rest.length ≤ (u.swap r v d).rest.length := by
    obtain ⟨w, hw⟩ := hru
    rw [swap, ← hw, swapEnd_append, List.length_append, List.length_append]
    omega
  refine readBracket_eq_some_iff.2 ⟨negated, start, u.swap r v d, body, ?_, ?_, rfl⟩
  · exact readBracketStart_swap_closed hs hstart hr hclose
  · exact readClass_swap hbody (Nat.succ_le_succ hlonger) hr

end Attest.Regex

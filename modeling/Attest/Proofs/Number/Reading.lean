import Attest.Json.Draft
import Attest.Proofs.Json.Scan
import Mathlib.Data.List.Basic
import Mathlib.Data.List.TakeDrop

/-!
How numbers are read.

The readers of the parts of a number take what they find off the front of a text and leave the end of it, and as long
as nothing follows that could go on a number they find the same in a longer text. So it is enough to know what is read
of a number's text alone. The digits of an integer give the integer back if it fits a 64-bit word, and no literal
denotes an integer that does not.
-/

namespace Attest

open Json (EndsNumber)
open Json.Grammar
open NumberLiteral (splitSign)

namespace Draft

variable {α β : Type} {cs ds rest after : List Char}

/-- A reader that takes its value off the front: what it leaves is the end of the text, and more text behind that
cannot be part of a number is left too. -/
structure TakesFront (read : List Char → Except Fault (α × List Char)) : Prop where
  suffix : ∀ {cs a after}, read cs = .ok (a, after) → after <:+ cs
  append : ∀ {cs a after rest}, read cs = .ok (a, after) → EndsNumber rest →
    read (cs ++ rest) = .ok (a, after ++ rest)

theorem TakesFront.map {read : List Char → Except Fault (α × List Char)} (h : TakesFront read) (f : α → β) :
    TakesFront fun cs => (read cs).map fun (a, rest) => (f a, rest) where
  suffix := by
    intro cs b after hread
    cases hcs : read cs with
    | error fault => simp [hcs, Except.map] at hread
    | ok found =>
        simp only [hcs, Except.map, Except.ok.injEq, Prod.mk.injEq] at hread
        obtain ⟨-, rfl⟩ := hread
        exact h.suffix hcs
  append := by
    intro cs b after rest hread hrest
    cases hcs : read cs with
    | error fault => simp [hcs, Except.map] at hread
    | ok found =>
        simp only [hcs, Except.map, Except.ok.injEq, Prod.mk.injEq] at hread
        obtain ⟨rfl, rfl⟩ := hread
        simp only [h.append hcs hrest, Except.map]

theorem span_append {p : Char → Bool} (hrest : ∀ c ∈ rest.head?, p c = false) (cs : List Char) :
    (cs ++ rest).span p = ((cs.span p).1, (cs.span p).2 ++ rest) := by
  simp only [List.span_eq_takeWhile_dropWhile]
  induction cs with
  | nil =>
      cases rest with
      | nil => rfl
      | cons c rest => simp [hrest c rfl]
  | cons c cs ih =>
      obtain ⟨htake, hdrop⟩ := Prod.mk.inj ih
      by_cases hc : p c
      · simp [hc, htake, hdrop]
      · simp [hc]

theorem takesFront_readDigits : TakesFront readDigits where
  suffix := by
    intro cs ds after h
    cases cs with
    | nil => cases h
    | cons c cs =>
        rw [readDigits] at h
        split at h
        · rw [List.span_eq_takeWhile_dropWhile] at h
          obtain ⟨-, rfl⟩ := Prod.mk.inj (Except.ok.inj h)
          exact List.dropWhile_suffix _
        · cases h
  append := by
    intro cs ds after rest h hrest
    cases cs with
    | nil => cases h
    | cons c cs =>
        rw [readDigits] at h
        split at h
        next hc =>
          rw [List.cons_append, readDigits, if_pos hc, ← List.cons_append,
            span_append fun c hc => (hrest c hc).1, Except.ok.inj h]
        next => cases h

theorem readWhole_of_ne {c : Char} (h : c ≠ '0') (cs : List Char) : readWhole (c :: cs) = readDigits (c :: cs) := by
  unfold readWhole
  split
  next heq => exact absurd (List.cons.inj heq).1 h
  next => rfl

theorem readWhole_zero (h : ∀ c ∈ cs.head?, c.isDigit = false) : readWhole ('0' :: cs) = .ok (['0'], cs) := by
  cases cs with
  | nil => rfl
  | cons c cs => simp [readWhole, h c rfl]

theorem readDigits_append (h : Digits ds) (hrest : ∀ c ∈ rest.head?, c.isDigit = false) :
    readDigits (ds ++ rest) = .ok (ds, rest) := by
  obtain ⟨c, tail, rfl, hc, -⟩ := h.exists_cons
  have hspan : (c :: tail).span Char.isDigit = (c :: tail, []) := by
    rw [List.span_eq_takeWhile_dropWhile, List.takeWhile_eq_self_iff.2 h.2, List.dropWhile_eq_nil_iff.2 h.2]
  rw [List.cons_append, readDigits, if_pos hc, ← List.cons_append, span_append hrest, hspan, List.nil_append]

theorem readWhole_append (h : Whole ds) (hrest : ∀ c ∈ rest.head?, c.isDigit = false) :
    readWhole (ds ++ rest) = .ok (ds, rest) := by
  cases h with
  | zero => exact readWhole_zero hrest
  | run h hzero =>
      obtain ⟨c, tail, rfl, -, -⟩ := h.exists_cons
      have hne : c ≠ '0' := fun hc => hzero (congrArg some hc)
      rw [List.cons_append, readWhole_of_ne hne, ← List.cons_append, readDigits_append h hrest]

theorem of_readWhole_zero (h : readWhole ('0' :: cs) = .ok (ds, after)) :
    ds = ['0'] ∧ after = cs ∧ ∀ c ∈ cs.head?, c.isDigit = false := by
  cases cs with
  | nil =>
      obtain ⟨rfl, rfl⟩ := Prod.mk.inj (Except.ok.inj h)
      exact ⟨rfl, rfl, by simp⟩
  | cons c cs =>
      rw [readWhole] at h
      split at h
      next => cases h
      next hc =>
        obtain ⟨rfl, rfl⟩ := Prod.mk.inj (Except.ok.inj h)
        exact ⟨rfl, rfl, by simpa using hc⟩

theorem takesFront_readWhole : TakesFront readWhole where
  suffix := by
    intro cs ds after h
    cases cs with
    | nil => cases h
    | cons c cs =>
        by_cases hzero : c = '0'
        · subst hzero
          obtain ⟨-, rfl, -⟩ := of_readWhole_zero h
          exact List.suffix_cons _ _
        · rw [readWhole_of_ne hzero] at h
          exact takesFront_readDigits.suffix h
  append := by
    intro cs ds after rest h hrest
    cases cs with
    | nil => cases h
    | cons c cs =>
        by_cases hzero : c = '0'
        · subst hzero
          obtain ⟨rfl, rfl, hcs⟩ := of_readWhole_zero h
          refine readWhole_zero fun c hc => ?_
          cases after with
          | nil => exact (hrest c hc).1
          | cons d after => exact hcs c hc
        · rw [readWhole_of_ne hzero] at h
          rw [List.cons_append, readWhole_of_ne hzero, ← List.cons_append]
          exact takesFront_readDigits.append h hrest

theorem takesFront_readFraction : TakesFront readFraction where
  suffix := by
    intro cs ds after h
    unfold readFraction at h
    split at h
    next => exact ((takesFront_readDigits.map some).suffix h).trans (List.suffix_cons _ _)
    next =>
      obtain ⟨-, rfl⟩ := Prod.mk.inj (Except.ok.inj h)
      exact List.suffix_refl _
  append := by
    intro cs ds after rest h hrest
    unfold readFraction at h
    split at h
    next => exact (takesFront_readDigits.map some).append h hrest
    next hpoint =>
      obtain ⟨rfl, rfl⟩ := Prod.mk.inj (Except.ok.inj h)
      unfold readFraction
      split
      -- A point would have to come from what follows, which cannot go on a number.
      next heq =>
        cases cs with
        | nil => exact absurd rfl (hrest '.' (by rw [← List.nil_append rest, heq]; rfl)).2.1
        | cons c cs =>
            obtain ⟨rfl, -⟩ := List.cons.inj heq
            exact absurd rfl (hpoint _)
      next => rfl

theorem splitSign_suffix (cs : List Char) : (splitSign cs).2 <:+ cs := by
  unfold splitSign
  split
  · exact List.suffix_cons _ _
  · exact List.suffix_cons _ _
  · exact List.suffix_refl _

theorem splitSign_of_ne {c : Char} (hminus : c ≠ '-') (hplus : c ≠ '+') (cs : List Char) :
    splitSign (c :: cs) = (false, c :: cs) := by
  unfold splitSign
  split
  next heq => exact absurd (List.cons.inj heq).1 hminus
  next heq => exact absurd (List.cons.inj heq).1 hplus
  next => rfl

theorem splitSign_append (h : cs ≠ []) (rest : List Char) :
    splitSign (cs ++ rest) = ((splitSign cs).1, (splitSign cs).2 ++ rest) := by
  obtain ⟨c, cs, rfl⟩ := List.exists_cons_of_ne_nil h
  by_cases hminus : c = '-'
  · subst hminus
    rfl
  · by_cases hplus : c = '+'
    · subst hplus
      rfl
    · rw [List.cons_append, splitSign_of_ne hminus hplus, splitSign_of_ne hminus hplus]
      rfl

/-- The digits of an exponent with the sign before them. -/
def readSigned (cs : List Char) : Except Fault (Option (Bool × List Char) × List Char) :=
  (readDigits (splitSign cs).2).map fun (ds, rest) => (some ((splitSign cs).1, ds), rest)

theorem takesFront_readSigned : TakesFront readSigned where
  suffix := by
    intro cs e after h
    exact ((takesFront_readDigits.map fun ds => some ((splitSign cs).1, ds)).suffix h).trans (splitSign_suffix cs)
  append := by
    intro cs e after rest h hrest
    have hne : cs ≠ [] := by
      rintro rfl
      cases h
    have happend := (takesFront_readDigits.map fun ds => some ((splitSign cs).1, ds)).append h hrest
    rw [readSigned, splitSign_append hne]
    exact happend

theorem readExponent_letter {c : Char} (h : c = 'e' ∨ c = 'E') (cs : List Char) :
    readExponent (c :: cs) = readSigned cs := by
  rw [readExponent.eq_def]
  exact if_pos h

theorem readExponent_other {c : Char} (h : ¬(c = 'e' ∨ c = 'E')) (cs : List Char) :
    readExponent (c :: cs) = .ok (none, c :: cs) := by
  rw [readExponent.eq_def]
  exact if_neg h

theorem takesFront_readExponent : TakesFront readExponent where
  suffix := by
    intro cs e after h
    cases cs with
    | nil =>
        obtain ⟨-, rfl⟩ := Prod.mk.inj (Except.ok.inj h)
        exact List.suffix_refl _
    | cons c cs =>
        by_cases hletter : c = 'e' ∨ c = 'E'
        · rw [readExponent_letter hletter] at h
          exact (takesFront_readSigned.suffix h).trans (List.suffix_cons _ _)
        · rw [readExponent_other hletter] at h
          obtain ⟨-, rfl⟩ := Prod.mk.inj (Except.ok.inj h)
          exact List.suffix_refl _
  append := by
    intro cs e after rest h hrest
    cases cs with
    | nil =>
        obtain ⟨rfl, rfl⟩ := Prod.mk.inj (Except.ok.inj h)
        cases rest with
        | nil => rfl
        | cons c rest => exact readExponent_other (not_or.2 (hrest c rfl).2.2) rest
    | cons c cs =>
        by_cases hletter : c = 'e' ∨ c = 'E'
        · rw [readExponent_letter hletter] at h
          rw [List.cons_append, readExponent_letter hletter]
          exact takesFront_readSigned.append h hrest
        · rw [readExponent_other hletter] at h
          obtain ⟨rfl, rfl⟩ := Prod.mk.inj (Except.ok.inj h)
          rw [List.cons_append, readExponent_other hletter]

/-- The parts of a number after its sign. -/
def readUnsigned (negative : Bool) (cs : List Char) : Except Fault (NumberLiteral × List Char) := do
  let (whole, cs) ← readWhole cs
  let (fraction, cs) ← readFraction cs
  let (exponent, cs) ← readExponent cs
  pure (⟨negative, whole, fraction, exponent⟩, cs)

theorem readUnsigned_eq_ok_iff {negative : Bool} {l : NumberLiteral} :
    readUnsigned negative cs = .ok (l, after) ↔ ∃ whole fraction exponent afterWhole afterFraction,
      readWhole cs = .ok (whole, afterWhole) ∧ readFraction afterWhole = .ok (fraction, afterFraction) ∧
        readExponent afterFraction = .ok (exponent, after) ∧ l = ⟨negative, whole, fraction, exponent⟩ := by
  simp only [readUnsigned, bind, Except.bind]
  constructor
  · intro h
    split at h
    next => cases h
    next hwhole =>
      split at h
      next => cases h
      next hfraction =>
        split at h
        next => cases h
        next hexponent =>
          obtain ⟨rfl, rfl⟩ := Prod.mk.inj (Except.ok.inj h)
          exact ⟨_, _, _, _, _, hwhole, hfraction, hexponent, rfl⟩
  · rintro ⟨whole, fraction, exponent, afterWhole, afterFraction, hwhole, hfraction, hexponent, rfl⟩
    simp only [hwhole, hfraction, hexponent]
    rfl

theorem takesFront_readUnsigned (negative : Bool) : TakesFront (readUnsigned negative) where
  suffix := by
    intro cs l after h
    obtain ⟨_, _, _, _, _, hwhole, hfraction, hexponent, -⟩ := readUnsigned_eq_ok_iff.1 h
    exact ((takesFront_readExponent.suffix hexponent).trans (takesFront_readFraction.suffix hfraction)).trans
      (takesFront_readWhole.suffix hwhole)
  append := by
    intro cs l after rest h hrest
    obtain ⟨_, _, _, _, _, hwhole, hfraction, hexponent, rfl⟩ := readUnsigned_eq_ok_iff.1 h
    exact readUnsigned_eq_ok_iff.2 ⟨_, _, _, _, _, takesFront_readWhole.append hwhole hrest,
      takesFront_readFraction.append hfraction hrest, takesFront_readExponent.append hexponent hrest, rfl⟩

theorem readNumber_minus (cs : List Char) : readNumber ('-' :: cs) = readUnsigned true cs :=
  rfl

theorem readNumber_of_ne {c : Char} (h : c ≠ '-') (cs : List Char) :
    readNumber (c :: cs) = readUnsigned false (c :: cs) := by
  unfold readNumber
  split
  next heq =>
    split at heq
    next hcs => exact absurd (List.cons.inj hcs).1 h
    next =>
      obtain ⟨rfl, rfl⟩ := Prod.mk.inj heq
      rfl

theorem takesFront_readNumber : TakesFront readNumber where
  suffix := by
    intro cs l after h
    cases cs with
    | nil => cases h
    | cons c cs =>
        by_cases hminus : c = '-'
        · subst hminus
          exact ((takesFront_readUnsigned true).suffix h).trans (List.suffix_cons _ _)
        · rw [readNumber_of_ne hminus] at h
          exact (takesFront_readUnsigned false).suffix h
  append := by
    intro cs l after rest h hrest
    cases cs with
    | nil => cases h
    | cons c cs =>
        by_cases hminus : c = '-'
        · subst hminus
          exact (takesFront_readUnsigned true).append h hrest
        · rw [readNumber_of_ne hminus] at h
          rw [List.cons_append, readNumber_of_ne hminus]
          exact (takesFront_readUnsigned false).append h hrest

/-! ### Integers -/

theorem head?_toDigits_ne_zero {n : Nat} (h : 0 < n) : (Nat.toDigits 10 n).head? ≠ some '0' := by
  induction n using Nat.strongRecOn with
  | _ n ih =>
      rw [Nat.toDigits_eq_if (by decide)]
      split
      next => simp [Nat.digitChar_eq_zero, Nat.ne_of_gt h]
      next hle =>
        rw [List.head?_append_of_ne_nil _ Nat.toDigits_ne_nil]
        exact ih (n / 10) (by omega) (by omega)

theorem digits_toDigits (n : Nat) : Digits (Nat.toDigits 10 n) :=
  ⟨Nat.toDigits_ne_nil, fun _ hc => Nat.isDigit_of_mem_toDigits (by decide) (by decide) hc⟩

theorem whole_toDigits (n : Nat) : Whole (Nat.toDigits 10 n) := by
  rcases Nat.eq_zero_or_pos n with rfl | hpos
  · exact .zero
  · exact .run (digits_toDigits n) (head?_toDigits_ne_zero hpos)

theorem opens_of_readNumber {l : NumberLiteral} (h : readNumber cs = .ok (l, after)) :
    ∃ c tail, cs = c :: tail ∧ (c = '-' ∨ c.isDigit = true) := by
  cases cs with
  | nil => cases h
  | cons c cs =>
      refine ⟨c, cs, rfl, ?_⟩
      by_cases hminus : c = '-'
      · exact .inl hminus
      · rw [readNumber_of_ne hminus] at h
        obtain ⟨_, _, _, _, _, hwhole, -⟩ := readUnsigned_eq_ok_iff.1 h
        by_cases hzero : c = '0'
        · exact .inr (by rw [hzero]; rfl)
        · rw [readWhole_of_ne hzero, readDigits] at hwhole
          split at hwhole
          next hc => exact .inr hc
          next => cases hwhole

end Draft

theorem NumberLiteral.takeFitting_eq {n : Nat} {ds : List Char} (h : Nat.ofDigitChars 10 ds n ≤ wordMax) :
    takeFitting n ds = (Nat.ofDigitChars 10 ds n, 0) := by
  induction ds generalizing n with
  | nil => rfl
  | cons c ds ih =>
      have hnext : Nat.ofDigitChars 10 (c :: ds) n = Nat.ofDigitChars 10 ds (10 * n + digitValue c) :=
        Nat.ofDigitChars_cons
      rw [hnext] at h ⊢
      -- More digits only make the number larger, so it fits the word all the way.
      have hle : 10 * n + digitValue c ≤ Nat.ofDigitChars 10 ds (10 * n + digitValue c) := by
        rw [Nat.ofDigitChars_eq_ofDigitChars_zero]
        exact Nat.le_add_right_of_le (Nat.le_mul_of_pos_left _ (Nat.pow_pos (by decide)))
      rw [takeFitting, if_pos (Nat.le_trans hle h), ih h]

/-- What an integer of a document can be: a 64-bit word, with a sign or without one. -/
def Number.InRange : Number → Prop
  | .int n => -Int.pow 2 63 ≤ n ∧ n ≤ Int.pow 2 64 - 1
  | .real _ => True

theorem NumberLiteral.value?_int {n : Int} (h : (Number.int n).InRange) :
    value? ⟨decide (n < 0), Nat.toDigits 10 n.natAbs, none, none⟩ = some (.int n) := by
  obtain ⟨hleast, hgreatest⟩ := h
  have hfits : n.natAbs ≤ wordMax := by
    have hmax : (wordMax : Int) = Int.pow 2 64 - 1 := by decide
    have hmin : -(wordMax : Int) ≤ -Int.pow 2 63 := by decide
    omega
  have htake : takeFitting 0 (Nat.toDigits 10 n.natAbs) = (n.natAbs, 0) := by
    have hdigits : Nat.ofDigitChars 10 (Nat.toDigits 10 n.natAbs) 0 = n.natAbs := Nat.ofDigitChars_ten_toDigits
    rw [takeFitting_eq (by rwa [hdigits]), hdigits]
  have hmin : ((Nat.pow 2 63 : Nat) : Int) = Int.pow 2 63 := by decide
  have hsign : (!decide (n < 0) || (decide (0 < n.natAbs) && decide (n.natAbs ≤ Nat.pow 2 63))) = true := by
    simp only [Bool.or_eq_true, Bool.and_eq_true, Bool.not_eq_true', decide_eq_true_eq, decide_eq_false_iff_not]
    omega
  have hvalue : (if decide (n < 0) = true then -(n.natAbs : Int) else n.natAbs) = n := by
    by_cases hneg : n < 0
    · rw [if_pos (decide_eq_true hneg)]
      omega
    · rw [if_neg (by simpa using hneg)]
      omega
  simp only [value?, htake, hsign, hvalue]
  rfl

theorem NumberLiteral.takeFitting_le {n : Nat} {ds : List Char} (h : n ≤ wordMax) :
    (takeFitting n ds).1 ≤ wordMax := by
  induction ds generalizing n with
  | nil => exact h
  | cons c ds ih =>
      rw [takeFitting]
      split
      next hnext => exact ih hnext
      next => exact h

/-- No literal denotes an integer beyond the 64-bit words. -/
theorem NumberLiteral.inRange_of_value? {l : NumberLiteral} {n : Number} (h : l.value? = some n) : n.InRange := by
  have hle : (takeFitting 0 l.whole).1 ≤ wordMax := takeFitting_le (Nat.zero_le _)
  have hmax : (wordMax : Int) = Int.pow 2 64 - 1 := by decide
  have hmin : ((Nat.pow 2 63 : Nat) : Int) = Int.pow 2 63 := by decide
  have hleast : (0 : Int) ≤ Int.pow 2 63 := by decide
  rw [value?] at h
  dsimp only at h
  split at h
  next hint =>
    obtain rfl := Option.some.inj h
    simp only [Bool.and_eq_true, Bool.or_eq_true, Bool.not_eq_true', decide_eq_true_eq] at hint
    obtain ⟨-, hsign⟩ := hint
    split
    next hneg =>
      rcases hsign with hpos | ⟨-, hfits⟩
      · exact absurd hneg (by simp [hpos])
      · constructor <;> omega
    next => constructor <;> omega
  next =>
    obtain ⟨x, -, rfl⟩ := Option.map_eq_some_iff.1 h
    exact trivial

end Attest

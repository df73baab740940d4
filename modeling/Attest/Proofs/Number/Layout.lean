import Attest.Proofs.Number.Denotation

/-!
How numbers are laid out. Whatever the style, the text of a number is that of a literal which denotes its shortest
decimal, and so a number of the grammar.

The digits of a positive number do not start with zero, so that neither layout of them has a zero too many in front.
That the digits of a binary number other than zero are those of a positive number holds because they are read back as
that number, and zero is not. Nor do they end in zero, so that all digits behind the point are needed, unless they are
the one zero that a whole number is given.
-/

namespace Attest

open Json.Grammar
open NumberLiteral (fractionText)
open Draft (digits_toDigits whole_toDigits)

/-! ### Digits -/

theorem digits_append {a b : List Char} (ha : Digits a) (hb : ∀ c ∈ b, c.isDigit = true) : Digits (a ++ b) :=
  ⟨List.append_ne_nil_of_left_ne_nil ha.1 b, List.forall_mem_append.2 ⟨ha.2, hb⟩⟩

theorem ne_zero_of_mem_getLast?_toDigits {n : Nat} (h : n % 10 ≠ 0) {c : Char} (hc : c ∈ (Nat.toDigits 10 n).getLast?) :
    c ≠ '0' := by
  rw [Nat.toDigits_eq_if (by decide)] at hc
  rintro rfl
  split at hc
  next hlt =>
    have hzero := Nat.digitChar_eq_zero.1 (Option.some.inj hc)
    omega
  next =>
    rw [List.getLast?_append] at hc
    exact h (Nat.digitChar_eq_zero.1 (Option.some.inj hc))

/-! ### Layouts -/

namespace NumberLiteral

variable {d : Decimal} (negative : Bool)

theorem wellFormed_pointed {whole ds : List Char} (hwhole : Whole whole) (hds : Digits ds) :
    WellFormed ⟨negative, whole, some ds, none⟩ where
  whole := hwhole
  fraction := fun _ h => Option.some.inj h ▸ hds
  exponent := fun _ h => nomatch h

/-- All digits behind the point. -/
theorem denotes_behind {n : Nat} (hlast : d.digits % 10 ≠ 0)
    (hexponent : d.exponent = -((n + (Nat.toDigits 10 d.digits).length : Nat) : Int)) :
    Denotes ⟨negative, ['0'], some (List.replicate n '0' ++ Nat.toDigits 10 d.digits), none⟩ d := by
  have hdigits : Digits (List.replicate n '0' ++ Nat.toDigits 10 d.digits) :=
    ⟨List.append_ne_nil_of_right_ne_nil _ Nat.toDigits_ne_nil, List.forall_mem_append.2
      ⟨fun _ hc => List.eq_of_mem_replicate hc ▸ rfl, (digits_toDigits d.digits).2⟩⟩
  refine (wellFormed_pointed negative .zero hdigits).denotes_of_getLast? (n + 1) ?_ ?_ ?_ (natAbs_power_of_none rfl)
  · rfl
  · simp only [power, behindPoint, Option.getD_some, List.length_append, List.length_replicate]
    omega
  · intro c hc
    rw [behindPoint, Option.getD_some, List.getLast?_append_of_ne_nil _ Nat.toDigits_ne_nil] at hc
    exact ne_zero_of_mem_getLast?_toDigits hlast hc

theorem whole_append_zeros (hpos : 0 < d.digits) (n : Nat) :
    Whole (Nat.toDigits 10 d.digits ++ List.replicate n '0') := by
  refine .run (digits_append (digits_toDigits _) fun _ hc => List.eq_of_mem_replicate hc ▸ rfl) ?_
  rw [List.head?_append_of_ne_nil _ Nat.toDigits_ne_nil]
  exact Draft.head?_toDigits_ne_zero hpos

/-- All digits in front of the point, with a fraction of zero or without one. -/
theorem denotes_whole {n : Nat} {fraction : Option (List Char)}
    (hwhole : Whole (Nat.toDigits 10 d.digits ++ List.replicate n '0')) (hexponent : d.exponent = n)
    (hfraction : fraction = none ∨ fraction = some ['0']) :
    Denotes ⟨negative, Nat.toDigits 10 d.digits ++ List.replicate n '0', fraction, none⟩ d := by
  have hdecimals : 0 = (-d.exponent).toNat := by rw [hexponent, Int.toNat_neg_natCast]
  rcases hfraction with rfl | rfl
  · refine WellFormed.denotes ⟨hwhole, by simp, by simp⟩ 0 n ?_ ?_ hdecimals (natAbs_power_of_none rfl)
    · exact List.append_nil _
    · rw [hexponent]
      simp [power, behindPoint]
  · have hwellFormed := wellFormed_pointed negative hwhole (digits_toDigits 0)
    refine hwellFormed.denotes 0 (n + 1) ?_ ?_ hdecimals (natAbs_power_of_none rfl)
    · simp [behindPoint, List.replicate_succ']
    · rw [hexponent]
      simp [power, behindPoint]

theorem denotes_toDigits (n : Nat) {fraction : Option (List Char)}
    (hfraction : fraction = none ∨ fraction = some ['0']) : Denotes ⟨negative, Nat.toDigits 10 n, fraction, none⟩ ⟨n, 0⟩ := by
  have h := denotes_whole (d := ⟨n, 0⟩) negative (n := 0) ((List.append_nil _).symm ▸ whole_toDigits n) rfl hfraction
  rwa [List.replicate_zero, List.append_nil] at h

theorem whole_take {n : Nat} (hpos : 0 < d.digits) (hn : 0 < n) : Whole ((Nat.toDigits 10 d.digits).take n) := by
  refine .run ⟨?_, fun c hc => (digits_toDigits _).2 c (List.mem_of_mem_take hc)⟩ ?_
  · rw [Ne, List.take_eq_nil_iff, not_or]
    exact ⟨hn.ne', Nat.toDigits_ne_nil⟩
  · rw [List.head?_take, if_neg hn.ne']
    exact Draft.head?_toDigits_ne_zero hpos

theorem digits_drop {n : Nat} (hlength : n < (Nat.toDigits 10 d.digits).length) :
    Digits ((Nat.toDigits 10 d.digits).drop n) := by
  refine ⟨?_, fun c hc => (digits_toDigits _).2 c (List.mem_of_mem_drop hc)⟩
  rw [Ne, List.drop_eq_nil_iff]
  omega

theorem ne_zero_of_mem_getLast?_drop {n : Nat} (hlast : d.digits % 10 ≠ 0) :
    ∀ c ∈ ((Nat.toDigits 10 d.digits).drop n).getLast?, c ≠ '0' := by
  intro c hc
  rw [List.getLast?_drop] at hc
  split at hc
  next => cases hc
  next => exact ne_zero_of_mem_getLast?_toDigits hlast hc

/-- The point between two digits. -/
theorem denotes_within {n : Nat} (hpos : 0 < d.digits) (hlast : d.digits % 10 ≠ 0) (hn : 0 < n)
    (hlength : n < (Nat.toDigits 10 d.digits).length) (hexponent : d.exponent = n - (Nat.toDigits 10 d.digits).length) :
    Denotes ⟨negative, (Nat.toDigits 10 d.digits).take n, some ((Nat.toDigits 10 d.digits).drop n), none⟩ d := by
  have hwellFormed := wellFormed_pointed negative (whole_take hpos hn) (digits_drop hlength)
  refine hwellFormed.denotes_of_getLast? 0 ?_ ?_ (ne_zero_of_mem_getLast?_drop hlast)
    (natAbs_power_of_none rfl)
  · exact List.take_append_drop _ _
  · simp only [power, behindPoint, Option.getD_some, List.length_drop]
    omega

/-- The point behind the first digit, if another one follows, and an exponent. -/
def raised (digits : List Char) (place : Int) : NumberLiteral :=
  ⟨negative, digits.take 1, if digits.length ≤ 1 then none else some (digits.drop 1),
    some (decide (place < 0), Nat.toDigits 10 place.natAbs)⟩

theorem behindPoint_raised (digits : List Char) (place : Int) :
    (raised negative digits place).behindPoint = digits.drop 1 := by
  rw [raised, behindPoint]
  split
  next hlength => rw [Option.getD_none, List.drop_eq_nil_of_le hlength]
  next => rfl

theorem power_raised (digits : List Char) (place : Int) : (raised negative digits place).power = place := by
  simp only [raised, power, natOfDigits_toDigits, decide_eq_true_eq]
  split <;> omega

theorem denotes_raised {place : Int} (hpos : 0 < d.digits) (hlast : d.digits % 10 ≠ 0)
    (hexponent : d.exponent = place + 1 - (Nat.toDigits 10 d.digits).length) (hplace : place.natAbs < 2 ^ 63) :
    Denotes (raised negative (Nat.toDigits 10 d.digits) place) d := by
  have hfraction : ∀ ds ∈ (raised negative (Nat.toDigits 10 d.digits) place).fraction, Digits ds := by
    intro ds hds
    rw [raised] at hds
    split at hds
    next => cases hds
    next hlength => exact Option.some.inj hds ▸ digits_drop (Nat.not_le.1 hlength)
  refine WellFormed.denotes_of_getLast? ⟨whole_take hpos Nat.one_pos, hfraction,
    fun _ h => Option.some.inj h ▸ digits_toDigits _⟩ 0 ?_ ?_ ?_ ((power_raised negative _ place).symm ▸ hplace)
  · rw [behindPoint_raised]
    exact List.take_append_drop _ _
  · rw [power_raised, behindPoint_raised, List.length_drop]
    have hlength := List.length_pos_of_ne_nil (Nat.toDigits_ne_nil (b := 10) (n := d.digits))
    omega
  · rw [behindPoint_raised]
    exact ne_zero_of_mem_getLast?_drop hlast

end NumberLiteral

namespace DecimalStyle

variable {style : DecimalStyle} {d : Decimal} {place : Int}

/-- Digits with the point in place are those of a literal without an exponent. -/
theorem exists_positionalText_eq (style : DecimalStyle) (negative : Bool) (hpos : 0 < d.digits) (hlast : d.digits % 10 ≠ 0)
    (hplace : place = d.exponent + (Nat.toDigits 10 d.digits).length - 1) :
    ∃ whole fraction, NumberLiteral.Denotes ⟨negative, whole, fraction, none⟩ d ∧
      (style.wholeFraction = true → fraction ≠ none) ∧
        positionalText style (Nat.toDigits 10 d.digits) place = whole ++ fractionText fraction := by
  unfold positionalText
  dsimp only
  split_ifs with hsmall hlarge hkeep
  · exact ⟨_, _, NumberLiteral.denotes_behind negative (n := (-(place + 1)).toNat) hlast (by omega), by simp,
      by simp [fractionText, zeros]⟩
  · exact ⟨_, some ['0'], NumberLiteral.denotes_whole negative (NumberLiteral.whole_append_zeros hpos _) (by omega)
      (.inr rfl), by simp, rfl⟩
  · exact ⟨_, none, NumberLiteral.denotes_whole negative (NumberLiteral.whole_append_zeros hpos _) (by omega)
      (.inl rfl), fun h => absurd h hkeep, rfl⟩
  · exact ⟨_, _, NumberLiteral.denotes_within negative (n := (place + 1).toNat) hpos hlast (by omega) (by omega)
      (by omega), by simp, rfl⟩

theorem exists_positionalText_zero (style : DecimalStyle) (negative : Bool) :
    ∃ fraction, NumberLiteral.Denotes ⟨negative, ['0'], fraction, none⟩ ⟨0, 0⟩ ∧
      (style.wholeFraction = true → fraction ≠ none) ∧
        positionalText style ['0'] 0 = ['0'] ++ fractionText fraction := by
  cases hkeep : style.wholeFraction
  · exact ⟨none, NumberLiteral.denotes_toDigits negative 0 (.inl rfl), by simp,
      by simp [positionalText, zeros, hkeep, fractionText]⟩
  · exact ⟨some ['0'], NumberLiteral.denotes_toDigits negative 0 (.inr rfl), by simp,
      by simp [positionalText, zeros, hkeep, fractionText]⟩

/-- One digit before the point and an exponent are those of a literal, too. -/
theorem exponentText_eq (negative : Bool) (digits : List Char) (place : Int) :
    exponentText style digits place = (NumberLiteral.raised negative digits place).whole ++
      (fractionText (NumberLiteral.raised negative digits place).fraction ++
        NumberLiteral.exponentText style.signedExponent (NumberLiteral.raised negative digits place).exponent) := by
  have hfraction : (if digits.length ≤ 1 then [] else '.' :: digits.drop 1) =
      fractionText (if digits.length ≤ 1 then none else some (digits.drop 1)) := by
    split <;> rfl
  simp only [exponentText, NumberLiteral.raised, NumberLiteral.exponentText, hfraction, decide_eq_true_eq,
    List.append_assoc, List.cons_append]

end DecimalStyle

namespace DecimalStyle

/-- The decimal that a binary number is laid out as. -/
def decimal (style : DecimalStyle) (x : Binary64) : Decimal :=
  if x.isZero then ⟨0, 0⟩ else Decimal.shortest style.tiesUp x

/-- **Every style lays a number out as a literal** that denotes the number's decimal. -/
theorem exists_literal (style : DecimalStyle) (x : Binary64) :
    ∃ l : NumberLiteral, l.negative = x.negative ∧ l.Denotes (style.decimal x) ∧
      (style.wholeFraction = true → l.fraction ≠ none ∨ l.exponent ≠ none) ∧
        style.text x = l.text style.signedExponent := by
  have htail (whole : List Char) (fraction : Option (List Char)) :
      (if x.negative then ['-'] else []) ++ (whole ++ fractionText fraction) =
        NumberLiteral.text style.signedExponent ⟨x.negative, whole, fraction, none⟩ := by
    rw [NumberLiteral.text, NumberLiteral.exponentText, List.append_nil]
  rw [text, decimal]
  by_cases hzero : x.isZero = true
  · rw [if_pos hzero, if_pos hzero]
    obtain ⟨fraction, hdenotes, hkeep, htext⟩ := exists_positionalText_zero style x.negative
    exact ⟨_, rfl, hdenotes, fun h => .inl (hkeep h), by rw [htext, htail]⟩
  · rw [if_neg hzero, if_neg hzero]
    dsimp only
    have hpos : 0 < (Decimal.shortest style.tiesUp x).digits := Decimal.digits_shortest_pos (Bool.eq_false_iff.2 hzero)
    have hlast : (Decimal.shortest style.tiesUp x).digits % 10 ≠ 0 :=
      Decimal.digits_shortest_mod_ne_zero (Bool.eq_false_iff.2 hzero)
    have hword := Decimal.natAbs_place_shortest_lt style.tiesUp x
    rw [Decimal.digitCount] at hword
    generalize hplace : (Decimal.shortest style.tiesUp x).exponent +
      ((Nat.toDigits 10 (Decimal.shortest style.tiesUp x).digits).length : Int) - 1 = place at hword ⊢
    by_cases hpositional : style.positional place = true
    · rw [if_pos hpositional]
      obtain ⟨whole, fraction, hdenotes, hkeep, htext⟩ :=
        exists_positionalText_eq style x.negative hpos hlast hplace.symm
      exact ⟨_, rfl, hdenotes, fun h => .inl (hkeep h), by rw [htext, htail]⟩
    · rw [if_neg hpositional, exponentText_eq x.negative]
      exact ⟨_, rfl, NumberLiteral.denotes_raised x.negative hpos hlast (by omega) hword,
        fun _ => .inr (Option.some_ne_none _), rfl⟩

/-- Both decimals of 17 digits around this number read back, and it lies in the middle between them. -/
example : (Binary64.round false 4503599627370497 4).styled .document = "1125899906842624.2" ∧
    (Binary64.round false 4503599627370497 4).styled .message = "1125899906842624.3" := by decide +kernel

end DecimalStyle

/-! ### Numbers of documents -/

namespace Number

/-- The sign that a number is written with. -/
def isNegative : Number → Bool
  | .int n => n < 0
  | .real x => x.negative

/-- The decimal that a number is written as, without its sign. -/
def decimal : Number → Decimal
  | .int n => ⟨n.natAbs, 0⟩
  | .real x => DecimalStyle.document.decimal x

theorem text_int (n : Int) :
    (Number.int n).text = NumberLiteral.text true ⟨decide (n < 0), Nat.toDigits 10 n.natAbs, none, none⟩ := by
  rw [text, NumberLiteral.text, fractionText, NumberLiteral.exponentText, List.append_nil, List.append_nil]
  by_cases hneg : n < 0
  · rw [if_pos hneg, if_pos (decide_eq_true hneg)]
    rfl
  · rw [if_neg hneg, if_neg (by simpa using hneg)]
    rfl

/-- **What a number is written as**: a literal with its sign, which denotes its decimal, and which only an integer
writes without a fraction and without an exponent. -/
theorem exists_literal (n : Number) :
    ∃ l : NumberLiteral, l.negative = n.isNegative ∧ l.Denotes n.decimal ∧
      ((∃ m, n = .int m) ↔ l.fraction = none ∧ l.exponent = none) ∧ n.text = l.text true := by
  cases n with
  | int n =>
      refine ⟨_, rfl, NumberLiteral.denotes_toDigits _ n.natAbs (.inl rfl), ?_, text_int n⟩
      exact ⟨fun _ => ⟨rfl, rfl⟩, fun _ => ⟨n, rfl⟩⟩
  | real x =>
      obtain ⟨l, hnegative, hdenotes, hkeep, htext⟩ := DecimalStyle.exists_literal .document x
      refine ⟨l, hnegative, hdenotes, ?_, htext⟩
      constructor
      · rintro ⟨m, h⟩
        cases h
      · rintro ⟨hfraction, hexponent⟩
        rcases hkeep rfl with hne | hne
        · exact absurd hfraction hne
        · exact absurd hexponent hne

/-- The text of a number is a number of the grammar. -/
theorem numberText_text (n : Number) : NumberText n.text := by
  obtain ⟨l, -, hdenotes, -, htext⟩ := n.exists_literal
  rw [htext]
  exact hdenotes.numberText true

theorem readNumber_int (n : Int) :
    Draft.readNumber (Number.int n).text = .ok (⟨decide (n < 0), Nat.toDigits 10 n.natAbs, none, none⟩, []) := by
  rw [text_int]
  exact (NumberLiteral.denotes_toDigits _ n.natAbs (.inl rfl)).readNumber true

/-- All of the text of a number is read as a literal. -/
theorem exists_readNumber (n : Number) : ∃ l, Draft.readNumber n.text = .ok (l, []) := by
  obtain ⟨l, -, hdenotes, -, htext⟩ := n.exists_literal
  exact ⟨l, by rw [htext, hdenotes.readNumber true]⟩

end Number

end Attest

import Attest.Number.Digits
import Attest.Proofs.Json.Grammar
import Attest.Proofs.Lists
import Attest.Proofs.Number.Reading
import Attest.Proofs.Number.Shortest
import Mathlib.Data.List.DropRight
import Mathlib.Order.Bounds.Basic
import Mathlib.Tactic.Linarith

/-!
What a number that is written denotes, and how many digits it has behind the point.

The reader of numbers cuts a text into the parts of a literal, and a literal with such parts is what is read of its own
text. It denotes the number that all its digits make up, times the power of ten that the exponent and the point leave.
Zeros at the end of the fraction add nothing to that, so the digits behind the point are those up to the last one that
is not zero, less as many as the exponent moves in front of the point.
-/

namespace Attest

open Json.Grammar

namespace NumberLiteral

/-! ### Digits -/

theorem natOfDigits_eq_ofDigitChars (ds : List Char) : natOfDigits ds = Nat.ofDigitChars 10 ds 0 := by
  rw [natOfDigits, Nat.ofDigitChars_eq_foldl]
  rfl

@[simp] theorem natOfDigits_toDigits (n : Nat) : natOfDigits (Nat.toDigits 10 n) = n := by
  rw [natOfDigits_eq_ofDigitChars, Nat.ofDigitChars_ten_toDigits]

theorem natOfDigits_zeros_append (n : Nat) (ds : List Char) :
    natOfDigits (List.replicate n '0' ++ ds) = natOfDigits ds := by
  simp only [natOfDigits_eq_ofDigitChars, Nat.ofDigitChars_append, Nat.ofDigitChars_replicate_zero, Nat.mul_zero]

theorem natOfDigits_append_zeros (n : Nat) (ds : List Char) :
    natOfDigits (ds ++ List.replicate n '0') = natOfDigits ds * 10 ^ n := by
  simp only [natOfDigits_eq_ofDigitChars, Nat.ofDigitChars_append, Nat.ofDigitChars_replicate_zero]
  rw [Nat.mul_comm]

/-! ### The parts of a literal -/

/-- The parts are those of a number of the grammar. -/
structure WellFormed (l : NumberLiteral) : Prop where
  whole : Whole l.whole
  fraction : ∀ ds ∈ l.fraction, Digits ds
  exponent : ∀ e ∈ l.exponent, Digits e.2

/-- The text of a fraction. -/
def fractionText : Option (List Char) → List Char
  | none => []
  | some ds => '.' :: ds

/-- The text of an exponent, with or without a sign before one that is not negative. -/
def exponentText (signed : Bool) : Option (Bool × List Char) → List Char
  | none => []
  | some (minus, ds) => 'e' :: ((if minus then ['-'] else if signed then ['+'] else []) ++ ds)

/-- The text of a literal. -/
def text (signed : Bool) (l : NumberLiteral) : List Char :=
  (if l.negative then ['-'] else []) ++ (l.whole ++ (fractionText l.fraction ++ exponentText signed l.exponent))

theorem WellFormed.numberText {l : NumberLiteral} (h : l.WellFormed) (signed : Bool) :
    NumberText (l.text signed) := by
  obtain ⟨negative, whole, fraction, exponent⟩ := l
  have hminus : (if negative then ['-'] else []) = [] ∨ (if negative then ['-'] else []) = ['-'] := by
    cases negative <;> simp
  have hsign (minus : Bool) : (if minus then ['-'] else if signed then ['+'] else []) = [] ∨
      (if minus then ['-'] else if signed then ['+'] else []) = ['+'] ∨
        (if minus then ['-'] else if signed then ['+'] else []) = ['-'] := by
    cases minus <;> cases signed <;> simp
  refine .mk hminus h.whole ?_ ?_
  · cases fraction with
    | none => exact .absent
    | some ds => exact .digits (h.fraction ds rfl)
  · cases exponent with
    | none => exact .absent
    | some e => exact .digits (.inl rfl) (hsign e.1) (h.exponent e rfl)

end NumberLiteral

/-! ### Reading the parts -/

namespace Draft

open NumberLiteral (fractionText exponentText splitSign)

variable {rest : List Char} {fraction : Option (List Char)} {exponent : Option (Bool × List Char)}

theorem readFraction_append (h : ∀ ds ∈ fraction, Digits ds)
    (hrest : ∀ c ∈ rest.head?, c.isDigit = false ∧ c ≠ '.') :
    readFraction (fractionText fraction ++ rest) = .ok (fraction, rest) := by
  cases fraction with
  | none =>
      rw [fractionText, List.nil_append]
      unfold readFraction
      split
      next => exact absurd rfl (hrest '.' rfl).2
      next => rfl
  | some ds =>
      have hread := readDigits_append (h ds rfl) fun c hc => (hrest c hc).1
      rw [fractionText, List.cons_append]
      simp only [readFraction, hread, Except.map]

theorem splitSign_append_digits {ds : List Char} (h : Digits ds) (minus signed : Bool) :
    splitSign ((if minus then ['-'] else if signed then ['+'] else []) ++ ds) = (minus, ds) := by
  obtain ⟨c, tail, rfl, hc, -⟩ := h.exists_cons
  cases minus
  · cases signed
    · refine splitSign_of_ne ?_ ?_ tail <;> (rintro rfl; exact absurd hc (by decide))
    · rfl
  · rfl

theorem readExponent_text (signed : Bool) (h : ∀ e ∈ exponent, Digits e.2) :
    readExponent (exponentText signed exponent) = .ok (exponent, []) := by
  cases exponent with
  | none => rfl
  | some e =>
      obtain ⟨minus, ds⟩ := e
      have hds : Digits ds := h (minus, ds) rfl
      have hread : readDigits ds = .ok (ds, []) := by
        have hread := readDigits_append hds (fun _ hc => nomatch hc : ∀ c ∈ ([] : List Char).head?, c.isDigit = false)
        rwa [List.append_nil] at hread
      rw [exponentText, readExponent_letter (.inl rfl), readSigned, splitSign_append_digits hds, hread]
      rfl

end Draft

namespace NumberLiteral

theorem ends_exponentText {signed : Bool} {exponent : Option (Bool × List Char)} :
    ∀ c ∈ (exponentText signed exponent).head?, c = 'e' := by
  cases exponent <;> simp [exponentText]

theorem ends_fractionText {fraction : Option (List Char)} {rest : List Char} (h : ∀ c ∈ rest.head?, c.isDigit = false) :
    ∀ c ∈ (fractionText fraction ++ rest).head?, c.isDigit = false := by
  cases fraction with
  | none => exact h
  | some ds => simp [fractionText]

/-- A literal is what is read of its text. -/
theorem WellFormed.readNumber {l : NumberLiteral} (h : l.WellFormed) (signed : Bool) :
    Draft.readNumber (l.text signed) = .ok (l, []) := by
  obtain ⟨negative, whole, fraction, exponent⟩ := l
  have hexponent : ∀ c ∈ (exponentText signed exponent).head?, c.isDigit = false ∧ c ≠ '.' := by
    intro c hc
    rw [ends_exponentText c hc]
    decide
  have hread : Draft.readUnsigned negative (whole ++ (fractionText fraction ++ exponentText signed exponent)) =
      .ok (⟨negative, whole, fraction, exponent⟩, []) :=
    Draft.readUnsigned_eq_ok_iff.2 ⟨_, _, _, _, _,
      Draft.readWhole_append h.whole (ends_fractionText fun c hc => (hexponent c hc).1),
      Draft.readFraction_append h.fraction hexponent, Draft.readExponent_text signed h.exponent, rfl⟩
  cases negative with
  | true => exact (Draft.readNumber_minus _).trans hread
  | false =>
      obtain ⟨c, tail, rfl, hc⟩ := h.whole.exists_cons
      refine (Draft.readNumber_of_ne ?_ _).trans hread
      rintro rfl
      exact absurd hc (by decide)

/-! ### What a literal denotes -/

section

variable (l : NumberLiteral)

/-- The digits behind the point. -/
def behindPoint : List Char :=
  l.fraction.getD []

/-- The exponent as it is written, zero where there is none. -/
def power : Int :=
  match l.exponent with
  | none => 0
  | some (minus, ds) => if minus then -(natOfDigits ds : Int) else natOfDigits ds

/-- The magnitude that the literal denotes, nothing rounded. -/
def magnitude : ℚ :=
  natOfDigits (l.whole ++ l.behindPoint) * 10 ^ (l.power - l.behindPoint.length)

/-- The value that the literal denotes, nothing rounded. -/
def exactValue : ℚ :=
  if l.negative then -l.magnitude else l.magnitude

/-- The digits behind the point, zeros at the end not counted, when the exponent has moved the point. -/
def decimals : Nat :=
  ((l.behindPoint.rdropWhile (· == '0')).length - l.power).toNat

end

theorem natAbs_power_of_none {l : NumberLiteral} (h : l.exponent = none) : l.power.natAbs < 2 ^ 63 := by
  rw [power, h]
  decide

/-- Without zeros at the end of the fraction all digits of it count. -/
theorem decimals_eq {l : NumberLiteral} (h : ∀ c ∈ l.behindPoint.getLast?, c ≠ '0') :
    l.decimals = (l.behindPoint.length - l.power).toNat := by
  have hself : l.behindPoint.rdropWhile (· == '0') = l.behindPoint := by
    rw [List.rdropWhile_eq_self_iff]
    intro hne
    simpa using h _ (List.getLast?_eq_some_getLast hne)
  rw [decimals, hself]

/-- A literal of the grammar with the magnitude of a decimal, as many digits behind the point and an exponent that fits
a word. -/
structure Denotes (l : NumberLiteral) (d : Decimal) : Prop extends WellFormed l where
  magnitude : l.magnitude = d.value
  decimals : l.decimals = (-d.exponent).toNat
  power : l.power.natAbs < 2 ^ 63

/-- A literal denotes a decimal whose digits it is made up of, apart from zeros around them. -/
theorem WellFormed.denotes {l : NumberLiteral} {d : Decimal} (h : l.WellFormed) (before after : Nat)
    (hdigits : l.whole ++ l.behindPoint =
      List.replicate before '0' ++ Nat.toDigits 10 d.digits ++ List.replicate after '0')
    (hexponent : d.exponent = l.power - l.behindPoint.length + after)
    (hdecimals : l.decimals = (-d.exponent).toNat) (hpower : l.power.natAbs < 2 ^ 63) : l.Denotes d where
  toWellFormed := h
  magnitude := by
    rw [NumberLiteral.magnitude, hdigits, natOfDigits_append_zeros, natOfDigits_zeros_append, natOfDigits_toDigits,
      Decimal.value, hexponent, zpow_add₀ (by norm_num), zpow_natCast]
    push_cast
    ring
  decimals := hdecimals
  power := hpower

/-- No zeros are behind the digits where the fraction does not end in zero. -/
theorem WellFormed.denotes_of_getLast? {l : NumberLiteral} {d : Decimal} (h : l.WellFormed) (before : Nat)
    (hdigits : l.whole ++ l.behindPoint = List.replicate before '0' ++ Nat.toDigits 10 d.digits)
    (hexponent : d.exponent = l.power - l.behindPoint.length) (hlast : ∀ c ∈ l.behindPoint.getLast?, c ≠ '0')
    (hpower : l.power.natAbs < 2 ^ 63) : l.Denotes d := by
  refine h.denotes before 0 ?_ ?_ ?_ hpower
  · rw [hdigits, List.replicate_zero, List.append_nil]
  · rw [hexponent, Nat.cast_zero, Int.add_zero]
  · rw [decimals_eq hlast, hexponent, Int.neg_sub]

/-! ### Counting in the text -/

theorem not_isMark_of_isDigit {c : Char} (h : c.isDigit = true) :
    (c == 'e' || c == 'E') = false ∧ (c == '.') = false := by
  refine ⟨Bool.or_eq_false_iff.2 ⟨?_, ?_⟩, ?_⟩ <;> refine beq_false_of_ne ?_ <;> rintro rfl <;> exact absurd h (by decide)

theorem signedWord?_append_digits {ds : List Char} (h : Digits ds) (minus signed : Bool) (hfits : natOfDigits ds < 2 ^ 63) :
    signedWord? ((if minus then ['-'] else if signed then ['+'] else []) ++ ds) =
      some (if minus then -(natOfDigits ds : Int) else natOfDigits ds) := by
  have hall : ds.all Char.isDigit = true := List.all_eq_true.2 h.2
  have hne : ds.isEmpty = false := List.isEmpty_eq_false_iff.2 h.1
  have hword : Int.pow 2 63 = 2 ^ 63 := rfl
  rw [signedWord?, Draft.splitSign_append_digits h]
  simp only [hall, hne, hword, Bool.not_false, Bool.and_self, Bool.true_and, Bool.and_eq_true, decide_eq_true_eq]
  rw [if_pos]
  constructor <;> split <;> omega

/-- The text of a literal before its exponent. -/
def mantissaText (l : NumberLiteral) : List Char :=
  (if l.negative then ['-'] else []) ++ (l.whole ++ fractionText l.fraction)

theorem WellFormed.not_isPoint {l : NumberLiteral} (h : l.WellFormed) :
    ∀ c ∈ (if l.negative then ['-'] else []) ++ l.whole, (c == '.') = false := by
  refine List.forall_mem_append.2 ⟨fun c hc => ?_, fun c hc => (not_isMark_of_isDigit (h.whole.digits.2 c hc)).2⟩
  split at hc
  · obtain rfl := List.mem_singleton.1 hc
    rfl
  · cases hc

theorem WellFormed.not_isLetter {l : NumberLiteral} (h : l.WellFormed) :
    ∀ c ∈ l.mantissaText, (c == 'e' || c == 'E') = false := by
  refine List.forall_mem_append.2 ⟨fun c hc => ?_, List.forall_mem_append.2
    ⟨fun c hc => (not_isMark_of_isDigit (h.whole.digits.2 c hc)).1, fun c hc => ?_⟩⟩
  · split at hc
    · obtain rfl := List.mem_singleton.1 hc
      rfl
    · cases hc
  · cases hfraction : l.fraction with
    | none => simp [hfraction, fractionText] at hc
    | some ds =>
        rw [hfraction, fractionText] at hc
        rcases List.mem_cons.1 hc with rfl | hc
        · rfl
        · exact (not_isMark_of_isDigit ((h.fraction ds hfraction).2 c hc)).1

/-- The fraction is found behind the first point. -/
theorem WellFormed.trimmedFraction_eq {l : NumberLiteral} (h : l.WellFormed) :
    trimmedFraction l.mantissaText = l.behindPoint.rdropWhile (· == '0') := by
  rw [trimmedFraction, mantissaText, behindPoint, ← List.append_assoc]
  cases l.fraction with
  | none =>
      rw [fractionText, List.append_nil, splitAtFirst_eq_none h.not_isPoint]
      rfl
  | some ds =>
      rw [fractionText, splitAtFirst_append h.not_isPoint rfl]
      rfl

/-- **Decimals counted in the text** are those of the literal, as long as its exponent fits a word. -/
theorem WellFormed.writtenDecimals_text {l : NumberLiteral} (h : l.WellFormed) (hpower : l.power.natAbs < 2 ^ 63)
    (signed : Bool) : writtenDecimals (l.text signed) = l.decimals := by
  have htext : l.text signed = l.mantissaText ++ exponentText signed l.exponent := by
    simp only [text, mantissaText, List.append_assoc]
  rw [writtenDecimals, htext, decimals]
  cases hexponent : l.exponent with
  | none =>
      have hzero : l.power = 0 := by rw [power, hexponent]
      rw [exponentText, List.append_nil, splitAtFirst_eq_none h.not_isLetter, hzero]
      dsimp only
      rw [h.trimmedFraction_eq]
  | some e =>
      obtain ⟨minus, ds⟩ := e
      have hds : Digits ds := h.exponent _ hexponent
      have hvalue : l.power = if minus then -(natOfDigits ds : Int) else natOfDigits ds := by rw [power, hexponent]
      have hfits : natOfDigits ds < 2 ^ 63 := by
        rw [hvalue] at hpower
        split at hpower <;> omega
      rw [exponentText, splitAtFirst_append h.not_isLetter rfl]
      dsimp only
      rw [signedWord?_append_digits hds minus signed hfits, h.trimmedFraction_eq, hvalue, Option.getD_some]

end NumberLiteral

/-! ### The digits behind the point -/

namespace Decimal

variable {d : Decimal}

/-- The decimal is whole, or its last digit is needed. -/
def Reduced (d : Decimal) : Prop :=
  0 ≤ d.exponent ∨ d.digits % 10 ≠ 0

theorem value_mul_pow (d : Decimal) (k : ℕ) : d.value * 10 ^ k = d.digits * 10 ^ (d.exponent + k) := by
  rw [value, zpow_add₀ (by norm_num), zpow_natCast, mul_assoc]

theorem exists_natCast_of_le {k : ℕ} (h : (-d.exponent).toNat ≤ k) : ∃ n : ℕ, d.value * 10 ^ k = n := by
  obtain ⟨j, hj⟩ : ∃ j : ℕ, d.exponent + k = j := ⟨(d.exponent + k).toNat, by omega⟩
  refine ⟨d.digits * 10 ^ j, ?_⟩
  rw [value_mul_pow, hj, zpow_natCast]
  push_cast
  rfl

theorem Reduced.le_of_natCast {k n : ℕ} (hd : d.Reduced) (h : d.value * 10 ^ k = n) : (-d.exponent).toNat ≤ k := by
  by_contra hlt
  obtain ⟨j, hj⟩ : ∃ j : ℕ, d.exponent + k = -((j + 1 : ℕ) : ℤ) := ⟨(-(d.exponent + k)).toNat - 1, by omega⟩
  rw [value_mul_pow, hj, zpow_neg, zpow_natCast, ← div_eq_mul_inv, div_eq_iff (by positivity)] at h
  -- The last digit is not zero, so no power of ten can be taken out of the digits.
  have hdigits : d.digits = n * 10 ^ j * 10 := by
    rw [Nat.mul_assoc, ← Nat.pow_succ]
    exact_mod_cast h
  rcases hd with hwhole | hlast
  · omega
  · omega

end Decimal

namespace NumberLiteral

/-- As many decimals as a reduced decimal has make the value whole, and no fewer. -/
theorem Denotes.isLeast_decimals {l : NumberLiteral} {d : Decimal} (h : l.Denotes d) (hd : d.Reduced) :
    IsLeast {k : ℕ | ∃ m : ℤ, l.exactValue * 10 ^ k = m} l.decimals := by
  have hvalue : l.exactValue = if l.negative then -d.value else d.value := by
    rw [exactValue, h.magnitude]
  have hnonneg (k : ℕ) : 0 ≤ d.value * 10 ^ k := by
    rw [Decimal.value]
    positivity
  rw [h.decimals]
  constructor
  · obtain ⟨n, hn⟩ := Decimal.exists_natCast_of_le (Nat.le_refl (-d.exponent).toNat)
    rw [Set.mem_ofPred_eq, hvalue]
    split
    · exact ⟨-n, by rw [neg_mul, hn]; push_cast; rfl⟩
    · exact ⟨n, by rw [hn]; rfl⟩
  · rintro k ⟨m, hm⟩
    refine hd.le_of_natCast (n := m.natAbs) ?_
    have habs : |l.exactValue * 10 ^ k| = d.value * 10 ^ k := by
      rw [hvalue]
      split
      · rw [neg_mul, abs_neg, abs_of_nonneg (hnonneg k)]
      · exact abs_of_nonneg (hnonneg k)
    rw [← habs, hm, Nat.cast_natAbs, Int.cast_abs]

end NumberLiteral

end Attest

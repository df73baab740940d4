import Attest.Proofs.Number.Rounding
import Mathlib.Algebra.Order.Field.Basic
import Mathlib.Tactic.Linarith
import Mathlib.Tactic.Positivity
import Mathlib.Tactic.Ring

/-!
Rounding to binary gives the nearest number, and of two that are equally near the one with the even significand.

The numbers with a shift of at least `s` are multiples of `2 ^ s` units. Rounding takes for `s` the shift that the
leading bit asks for and picks the nearest multiple, so that no number with such a shift is nearer. A number with a
smaller shift lies below the least number with this leading bit, which is a multiple itself and stands between the two.
-/

namespace Attest

namespace Binary64

variable {x : Binary64} {num den shift : Nat}

/-! ### The nearest integer -/

/-- Rounding a quotient goes no further than half a step, and just half a step only to an even number. -/
theorem roundDiv_spec (num : Nat) (hden : 0 < den) :
    2 * |(roundDiv num den * den : ℤ) - num| ≤ den ∧
      (2 * |(roundDiv num den * den : ℤ) - num| = den → 2 ∣ roundDiv num den) := by
  have hdivision : (den : ℤ) * (num / den : ℕ) + (num % den : ℕ) = num := mod_cast Nat.div_add_mod num den
  have hmod : num % den < den := Nat.mod_lt num hden
  have hbelow : ((num / den : ℕ) * den : ℤ) - num = -(num % den : ℕ) := by linarith
  have habove : ((num / den + 1 : ℕ) * den : ℤ) - num = (den - num % den : ℕ) := by
    rw [Nat.cast_sub hmod.le, Nat.cast_add, Nat.cast_one]
    linarith
  unfold roundDiv
  dsimp only
  split_ifs with hup
  · rw [habove, Nat.abs_cast]
    omega
  · rw [hbelow, abs_neg, Nat.abs_cast]
    omega

/-- No integer is nearer to a quotient than the one that it is rounded to. -/
theorem abs_roundDiv_sub_le (num : Nat) (hden : 0 < den) (k : ℤ) :
    |(roundDiv num den * den : ℤ) - num| ≤ |k * den - num| ∧
      (k ≠ roundDiv num den → |k * den - num| = |(roundDiv num den * den : ℤ) - num| → 2 ∣ roundDiv num den) := by
  by_cases heq : k = roundDiv num den
  · rw [heq]
    exact ⟨le_rfl, fun hne => absurd rfl hne⟩
  obtain ⟨hhalf, heven⟩ := roundDiv_spec num hden
  -- Another integer is at least one step away from this one.
  have hstep : (den : ℤ) ≤ |k * den - roundDiv num den * den| := by
    rw [← sub_mul, abs_mul, Nat.abs_cast]
    exact le_mul_of_one_le_left (Int.natCast_nonneg den) (Int.one_le_abs (sub_ne_zero.2 heq))
  have hsum : |k * den - roundDiv num den * den| ≤ |k * den - num| + |(roundDiv num den * den : ℤ) - num| := by
    rw [abs_sub_comm (roundDiv num den * den : ℤ)]
    exact abs_sub_le ..
  exact ⟨by linarith, fun _ htie => heven (by linarith)⟩

theorem le_roundDiv {k : Nat} (h : k * den ≤ num) (hden : 0 < den) : k ≤ roundDiv num den := by
  obtain ⟨hhalf, -⟩ := roundDiv_spec num hden
  by_contra! hlt
  have hbelow : roundDiv num den * den + den ≤ k * den := by
    rw [← Nat.succ_mul]
    exact Nat.mul_le_mul_right den hlt
  have := (abs_le.1 (le_refl |(roundDiv num den * den : ℤ) - num|)).1
  zify at h hbelow
  linarith

theorem roundDiv_le {k : Nat} (h : num ≤ k * den) (hden : 0 < den) : roundDiv num den ≤ k := by
  obtain ⟨hhalf, -⟩ := roundDiv_spec num hden
  by_contra! hlt
  have habove : k * den + den ≤ roundDiv num den * den := by
    rw [← Nat.succ_mul]
    exact Nat.mul_le_mul_right den hlt
  have := (abs_le.1 (le_refl |(roundDiv num den * den : ℤ) - num|)).2
  zify at h habove
  linarith

/-! ### The nearest count of units -/

/-- A number with no smaller shift is a multiple of the shifted unit. -/
theorem exists_units_eq_mul (h : shift ≤ x.shift) : ∃ k : Nat, x.units = k * 2 ^ shift := by
  refine ⟨x.mantissa * 2 ^ (x.shift - shift), ?_⟩
  rw [Nat.mul_assoc, ← Nat.pow_add, Nat.sub_add_cancel h]
  rfl

/-- A number with a smaller shift is below all significands that use up their bits. -/
theorem units_lt_of_shift_lt (h : x.shift < shift) : x.units < 2 ^ 52 * 2 ^ shift :=
  calc x.units < 2 ^ 53 * 2 ^ x.shift := Nat.mul_lt_mul_of_pos_right x.mantissa_lt (Nat.two_pow_pos _)
    _ = 2 ^ 52 * 2 ^ (x.shift + 1) := by
        rw [Nat.pow_succ]
        ring
    _ ≤ 2 ^ 52 * 2 ^ shift := Nat.mul_le_mul_left _ (Nat.pow_le_pow_right (by decide) h)

/-- The multiple of the shifted unit that a fraction is rounded to is nearer than every other number, as long as the
fraction uses up the bits of a significand at this shift or nothing is shifted out. -/
theorem abs_units_sub_le (hden : 0 < den) (hlow : 0 < shift → 2 ^ 52 * (den * 2 ^ shift) ≤ num)
    (hx : x.units = roundDiv num (den * 2 ^ shift) * 2 ^ shift) (y : Binary64) :
    |(x.units * den : ℤ) - num| ≤ |(y.units * den : ℤ) - num| ∧
      (y.units ≠ x.units → |(y.units * den : ℤ) - num| = |(x.units * den : ℤ) - num| →
        2 ∣ roundDiv num (den * 2 ^ shift)) := by
  have hstep : 0 < den * 2 ^ shift := Nat.mul_pos hden (Nat.two_pow_pos _)
  have hmultiple (k : ℕ) := abs_roundDiv_sub_le num hstep k
  have hden_units (k : ℕ) : (((k * 2 ^ shift : ℕ) : ℤ) * den) = k * (den * 2 ^ shift : ℕ) := by
    push_cast
    ring
  rw [hx, hden_units]
  generalize roundDiv num (den * 2 ^ shift) = mantissa at hmultiple ⊢
  rcases le_or_gt shift y.shift with hshift | hshift
  · obtain ⟨k, hk⟩ := exists_units_eq_mul hshift
    obtain ⟨hle, heven⟩ := hmultiple k
    rw [hk, hden_units]
    exact ⟨hle, fun hne => heven fun heq => hne (by rw [Int.ofNat_inj.1 heq])⟩
  · -- The least number with the leading bit of the fraction stands between the two.
    have hbelow : (y.units * den : ℤ) < (2 ^ 52 : ℕ) * (den * 2 ^ shift : ℕ) := by
      rw [← hden_units]
      exact mod_cast Nat.mul_lt_mul_of_pos_right (units_lt_of_shift_lt hshift) hden
    have habove : ((2 ^ 52 : ℕ) * (den * 2 ^ shift : ℕ) : ℤ) ≤ num := mod_cast hlow (Nat.zero_lt_of_lt hshift)
    obtain ⟨hnearer, -⟩ := hmultiple (2 ^ 52)
    rw [abs_of_nonpos (sub_nonpos.2 habove)] at hnearer
    rw [abs_of_nonpos (sub_nonpos.2 (hbelow.le.trans habove))]
    exact ⟨by linarith, fun _ htie => by linarith⟩

/-! ### Rounding a fraction -/

/-- No binary number is nearer to the fraction, and where another one is equally near, the significand is even. -/
structure Nearest (x : Binary64) (q : ℚ) : Prop where
  le : ∀ y : Binary64, |x.value - q| ≤ |y.value - q|
  even : ∀ y : Binary64, y.value ≠ x.value → |y.value - q| = |x.value - q| → 2 ∣ x.mantissa

/-- The shift that brings the leading bit of a fraction into its place. -/
def roundingShift (num den : Nat) : Nat :=
  Nat.log2 (num * Nat.pow 2 unitBits / den) - 52

theorem le_of_roundingShift_pos (hden : 0 < den) (h : 0 < roundingShift num den) :
    2 ^ 52 * (den * 2 ^ roundingShift num den) ≤ num * Nat.pow 2 unitBits := by
  have hlog : 52 + roundingShift num den = Nat.log2 (num * Nat.pow 2 unitBits / den) := by
    unfold roundingShift at h ⊢
    omega
  have hne : num * Nat.pow 2 unitBits / den ≠ 0 := by
    intro hzero
    rw [hzero] at hlog
    have hzerolog : Nat.log2 0 = 0 := rfl
    omega
  have hle : 2 ^ (52 + roundingShift num den) ≤ num * Nat.pow 2 unitBits / den := hlog ▸ Nat.log2_self_le hne
  calc 2 ^ 52 * (den * 2 ^ roundingShift num den) = 2 ^ (52 + roundingShift num den) * den := by
        rw [Nat.pow_add]
        ring
    _ ≤ num * Nat.pow 2 unitBits := (Nat.le_div_iff_mul_le hden).1 hle

theorem lt_of_roundingShift (hden : 0 < den) :
    num * Nat.pow 2 unitBits < 2 ^ 53 * (den * 2 ^ roundingShift num den) := by
  have hlog : Nat.log2 (num * Nat.pow 2 unitBits / den) + 1 ≤ 53 + roundingShift num den := by
    unfold roundingShift
    omega
  have hlt : num * Nat.pow 2 unitBits / den < 2 ^ (53 + roundingShift num den) :=
    Nat.lt_of_lt_of_le Nat.lt_log2_self (Nat.pow_le_pow_right (by decide) hlog)
  calc num * Nat.pow 2 unitBits < 2 ^ (53 + roundingShift num den) * den := (Nat.div_lt_iff_lt_mul hden).1 hlt
    _ = 2 ^ 53 * (den * 2 ^ roundingShift num den) := by
        rw [Nat.pow_add]
        ring

/-- A number of a form has its sign and its units, and a significand that is even if that of the form is. -/
theorem ofForm_eq_finite {negative : Bool} {mantissa : Nat} (h : ofForm negative mantissa shift = .finite x) :
    x.negative = negative ∧ x.units = mantissa * 2 ^ shift ∧ (2 ∣ mantissa → 2 ∣ x.mantissa) := by
  unfold ofForm at h
  split_ifs at h with hform htop
  · obtain rfl := Double.finite.inj h
    exact ⟨rfl, rfl, id⟩
  · obtain rfl := Double.finite.inj h
    obtain ⟨rfl, -⟩ := htop
    refine ⟨rfl, ?_, fun _ => (by decide : 2 ∣ Nat.pow 2 52)⟩
    calc 2 ^ 52 * 2 ^ (shift + 1) = 2 ^ 53 * 2 ^ shift := by rw [← Nat.pow_add, ← Nat.pow_add]; congr 1; omega

theorem abs_value (x : Binary64) : |x.value| = x.units / (Nat.pow 2 unitBits : ℕ) := by
  rw [value, abs_div, Nat.abs_cast, ← Int.cast_abs, Int.abs_eq_natAbs, natAbs_signedUnits, Int.cast_natCast]

theorem value_eq_of_negative (x : Binary64) : x.value = if x.negative then -|x.value| else |x.value| := by
  rw [abs_value, value, signedUnits]
  split
  · rw [Int.cast_neg, Int.cast_natCast, neg_div]
  · rw [Int.cast_natCast]

theorem unit_pos : (0 : ℚ) < (Nat.pow 2 unitBits : ℕ) :=
  lt_of_le_of_ne (Nat.cast_nonneg _) (two_pow_cast_ne_zero unitBits).symm

@[simp] theorem value_zero (negative : Bool) : (zero negative).value = 0 := by
  have hunits : (zero negative).signedUnits = 0 := by cases negative <;> rfl
  rw [value, hunits, Int.cast_zero, zero_div]

/-- How far a magnitude is from a fraction, in whole numbers. -/
theorem abs_abs_value_sub (hden : 0 < den) (y : Binary64) :
    |(|y.value| - num / den)| =
      |(y.units * den : ℤ) - (num * Nat.pow 2 unitBits : ℕ)| / ((Nat.pow 2 unitBits : ℕ) * den) := by
  have hdenpos : (0 : ℚ) < den := Nat.cast_pos.2 hden
  rw [abs_value, div_sub_div _ _ unit_pos.ne' hdenpos.ne', abs_div, abs_of_pos (mul_pos unit_pos hdenpos),
    mul_comm _ (num : ℚ), Int.cast_abs, Int.cast_sub, Int.cast_mul, Int.cast_natCast, Int.cast_natCast,
    Int.cast_natCast, Nat.cast_mul]

theorem ext_magnitude {y : Binary64} (h : y.units = x.units) : |y.value| = |x.value| := by
  rw [abs_value, abs_value, h]

/-- Among the magnitudes of numbers, that of the rounded one is the nearest to the fraction. -/
theorem magnitude_nearest_of_round {negative : Bool} (hden : 0 < den) (h : round negative num den = .finite x)
    (y : Binary64) : |(|x.value| - num / den)| ≤ |(|y.value| - num / den)| ∧
      (|y.value| ≠ |x.value| → |(|y.value| - num / den)| = |(|x.value| - num / den)| → 2 ∣ x.mantissa) := by
  obtain ⟨-, hunits, heven⟩ := ofForm_eq_finite h
  obtain ⟨hle, htie⟩ := abs_units_sub_le hden (le_of_roundingShift_pos hden) hunits y
  have hscale : (0 : ℚ) < (Nat.pow 2 unitBits : ℕ) * den :=
    mul_pos unit_pos (Nat.cast_pos.2 hden)
  rw [abs_abs_value_sub hden, abs_abs_value_sub hden, div_le_div_iff_of_pos_right hscale,
    div_left_inj' hscale.ne', Int.cast_le, Int.cast_inj]
  exact ⟨hle, fun hne heq => heven (htie (fun hunits => hne (ext_magnitude hunits)) heq)⟩

/-- **Rounding gives the nearest number**, if it gives a finite one. -/
theorem nearest_of_round {negative : Bool} (hden : 0 < den) (h : round negative num den = .finite x) :
    x.Nearest (if negative then -(num / den : ℚ) else num / den) := by
  have hmagnitude := magnitude_nearest_of_round hden h
  obtain ⟨hsign, -, -⟩ := ofForm_eq_finite h
  have habs : |(if negative then -(num / den : ℚ) else num / den)| = num / den := by
    have hnonneg : (0 : ℚ) ≤ num / den := by positivity
    split
    · rw [abs_neg, abs_of_nonneg hnonneg]
    · rw [abs_of_nonneg hnonneg]
  -- The number has the sign of the fraction, so that only the magnitudes differ.
  have hx : |x.value - if negative then -(num / den : ℚ) else num / den| = |(|x.value| - num / den)| := by
    rw [x.value_eq_of_negative, hsign]
    split
    · rw [neg_sub_neg, abs_sub_comm, abs_neg, abs_abs]
    · rw [abs_abs]
  generalize (if negative then -(num / den : ℚ) else num / den) = q at habs hx ⊢
  rw [← habs] at hmagnitude hx
  have hfar (y : Binary64) : |(|y.value| - |q|)| ≤ |y.value - q| := abs_abs_sub_abs_le _ _
  refine ⟨fun y => ?_, fun y hne htie => ?_⟩
  · rw [hx]
    exact (hmagnitude y).1.trans (hfar y)
  · refine (hmagnitude y).2 (fun hsame => ?_) (le_antisymm ?_ (hmagnitude y).1)
    · -- A number with the other sign is farther away, unless both are zero.
      obtain hyx | hyx := abs_eq_abs.1 hsame
      · exact hne hyx
      have hxzero : x.value = 0 := by
        rw [hyx] at htie
        obtain hsides | hsides := abs_eq_abs.1 htie
        · linarith
        · have hq : q = 0 := by linarith
          have hle := (hmagnitude (zero false)).1
          simpa [hq] using hle
      exact hne (by rw [hyx, hxzero, neg_zero])
    · rw [← hx, ← htie]
      exact hfar y

theorem roundingShift_lt (hden : 0 < den) (h : num < 2 ^ 64 * den) : roundingShift num den < 2045 := by
  have hbits : unitBits = 1074 := rfl
  have hlt (bits : Nat) : num * Nat.pow 2 bits / den < 2 ^ (64 + bits) := by
    rw [Nat.div_lt_iff_lt_mul hden, Nat.pow_add, Nat.mul_right_comm]
    exact Nat.mul_lt_mul_of_pos_right h (Nat.two_pow_pos bits)
  unfold roundingShift
  by_cases hzero : num * Nat.pow 2 unitBits / den = 0
  · rw [hzero]
    decide
  · have := (Nat.log2_lt hzero).2 (hlt unitBits)
    omega

/-- Fractions below `2 ^ 64` are rounded to finite numbers. -/
theorem exists_round_eq_finite (negative : Bool) (hden : 0 < den) (h : num < 2 ^ 64 * den) :
    ∃ x : Binary64, round negative num den = .finite x := by
  have hstep : 0 < den * 2 ^ roundingShift num den := Nat.mul_pos hden (Nat.two_pow_pos _)
  have hlow : 2 ^ 52 ≤ roundDiv (num * Nat.pow 2 unitBits) (den * 2 ^ roundingShift num den) ∨
      roundingShift num den = 0 := by
    rcases Nat.eq_zero_or_pos (roundingShift num den) with hzero | hpos
    · exact .inr hzero
    · exact .inl (le_roundDiv (le_of_roundingShift_pos hden hpos) hstep)
  have hhigh : roundDiv (num * Nat.pow 2 unitBits) (den * 2 ^ roundingShift num den) ≤ 2 ^ 53 :=
    roundDiv_le (lt_of_roundingShift hden).le hstep
  have hshift := roundingShift_lt hden h
  change ∃ x, ofForm negative (roundDiv (num * Nat.pow 2 unitBits) (den * 2 ^ roundingShift num den))
    (roundingShift num den) = .finite x
  rw [ofForm]
  split_ifs with hform htop
  · exact ⟨_, rfl⟩
  · exact ⟨_, rfl⟩
  · rcases Nat.lt_or_eq_of_le hhigh with hlt | htop'
    · exact absurd ⟨hlt, hshift.le, hlow⟩ hform
    · exact absurd ⟨htop', hshift⟩ htop

/-! ### Comparing a rounded number -/

variable {q : ℚ}

/-- A number is not above the rounded one if it is not above the fraction, and otherwise only if it is the rounded
number itself. -/
theorem Nearest.le_value_iff (h : x.Nearest q) (a : Binary64) :
    a.value ≤ x.value ↔ a.value ≤ q ∨ a.value = x.value := by
  have hle := h.le a
  constructor
  · intro hax
    by_contra! hfar
    obtain ⟨hqa, hne⟩ := hfar
    have hlt : a.value < x.value := lt_of_le_of_ne hax hne
    rw [abs_of_pos (by linarith), abs_of_pos (by linarith)] at hle
    linarith
  · rintro (haq | heq)
    · by_contra! hlt
      rw [abs_of_neg (by linarith), abs_of_nonpos (by linarith)] at hle
      linarith
    · exact heq.le

theorem Nearest.value_le_iff (h : x.Nearest q) (b : Binary64) :
    x.value ≤ b.value ↔ q ≤ b.value ∨ b.value = x.value := by
  have hle := h.le b
  constructor
  · intro hxb
    by_contra! hfar
    obtain ⟨hbq, hne⟩ := hfar
    have hlt : x.value < b.value := lt_of_le_of_ne hxb hne.symm
    rw [abs_of_neg (by linarith), abs_of_neg (by linarith)] at hle
    linarith
  · rintro (hqb | heq)
    · by_contra! hlt
      rw [abs_of_pos (by linarith), abs_of_nonneg (by linarith)] at hle
      linarith
    · exact heq.ge

end Binary64

namespace Double

open Binary64 (Nearest)

variable {x y : Binary64} {n : Int}

/-- An integer below `2 ^ 64` in magnitude is rounded to the number nearest to it. -/
theorem exists_ofInt_eq (h : n.natAbs < 2 ^ 64) : ∃ x : Binary64, ofInt n = .finite x ∧ x.Nearest n := by
  obtain ⟨x, hx⟩ := Binary64.exists_round_eq_finite (n < 0) Nat.one_pos (by rwa [Nat.mul_one])
  have hnearest := Binary64.nearest_of_round Nat.one_pos hx
  rw [Nat.cast_one, div_one, Nat.cast_natAbs, Int.cast_abs] at hnearest
  rw [ofInt, Binary64.ofNat]
  by_cases hneg : n < 0
  · rw [decide_eq_true hneg] at hx hnearest
    rw [if_pos rfl, abs_of_neg (Int.cast_lt_zero.2 hneg), neg_neg] at hnearest
    rw [if_pos hneg]
    exact ⟨x, hx, hnearest⟩
  · rw [decide_eq_false hneg] at hx hnearest
    rw [if_neg Bool.false_ne_true, abs_of_nonneg (Int.cast_nonneg (not_lt.1 hneg))] at hnearest
    rw [if_neg hneg]
    exact ⟨x, hx, hnearest⟩

theorem less_finite : less (.finite x) (.finite y) = true ↔ x.value < y.value := by
  rw [less, compare?, beq_iff_eq, Option.some.injEq, compare_lt_iff_lt, Binary64.value, Binary64.value,
    div_lt_div_iff_of_pos_right Binary64.unit_pos, Int.cast_lt]

theorem atMost_finite : atMost (.finite x) (.finite y) = true ↔ x.value ≤ y.value := by
  rw [atMost, Bool.or_eq_true, less_finite, equal_finite, ← Binary64.value_eq_iff, le_iff_lt_or_eq]

end Double

end Attest

import Attest.Number.Basic
import Mathlib.Algebra.Order.Field.Rat
import Mathlib.Tactic.FieldSimp
import Mathlib.Tactic.NormNum

/-!
What rounding to binary does to the value of a number.

A fraction that is a number of 64 bits is rounded to that number, as a number has one form only and the form that
rounding looks for is that one. So rounding changes no value that a binary number has: integers up to `2 ^ 53` keep
their values, and comparison after rounding never separates two numbers of one value. What it can do is to bring two
numbers of different values together, of which one at least is then not exact.
-/

namespace Attest

namespace Binary64

variable {x : Binary64}

/-- The value, as the fraction it is. -/
def value (x : Binary64) : ℚ :=
  x.signedUnits / (Nat.pow 2 unitBits : Nat)

theorem two_pow_cast_ne_zero (n : Nat) : ((Nat.pow 2 n : Nat) : ℚ) ≠ 0 :=
  Nat.cast_ne_zero.2 (Nat.two_pow_pos n).ne'

theorem value_eq_iff {x y : Binary64} : x.value = y.value ↔ x.signedUnits = y.signedUnits := by
  rw [value, value, div_left_inj' (two_pow_cast_ne_zero unitBits), Int.cast_inj]

theorem intCast_eq_value_iff {n : Int} : (n : ℚ) = x.value ↔ n * (Nat.pow 2 unitBits : Nat) = x.signedUnits := by
  rw [value, eq_div_iff (two_pow_cast_ne_zero unitBits), ← Int.cast_natCast, ← Int.cast_mul, Int.cast_inj]

@[simp] theorem natAbs_signedUnits : x.signedUnits.natAbs = x.units := by
  rw [signedUnits]
  split <;> simp

/-- The number with the sign of an integer that has its magnitude counts as many units as the integer. -/
theorem signedUnits_with_sign {n : Int} (h : n.natAbs * Nat.pow 2 unitBits = x.units) :
    signedUnits { x with negative := n < 0 } = n * (Nat.pow 2 unitBits : Nat) := by
  have hunits : units { x with negative := n < 0 } = n.natAbs * Nat.pow 2 unitBits := h.symm
  rw [signedUnits, hunits, Nat.cast_mul]
  by_cases hneg : n < 0
  · rw [if_pos (decide_eq_true hneg), Int.ofNat_natAbs_of_nonpos hneg.le, Int.neg_mul, Int.neg_neg]
  · rw [if_neg (by simpa using hneg), Int.natAbs_of_nonneg (not_lt.1 hneg)]

/-- Division of a multiple is exact, so nothing is rounded. -/
theorem roundDiv_mul_right {quotient den : Nat} (h : 0 < den) : roundDiv (quotient * den) den = quotient := by
  rw [roundDiv, Nat.mul_div_cancel _ h, Nat.mul_mod_left, Nat.mul_zero,
    if_neg fun hup => hup.elim (Nat.not_lt_zero den) fun htie => h.ne htie.1]

/-- The place of the leading bit tells the shift. -/
theorem log2_units_sub : Nat.log2 x.units - 52 = x.shift := by
  have hlt : x.mantissa < 2 ^ 53 := x.mantissa_lt
  rcases x.normal with hnormal | hshift
  · have hle : 2 ^ 52 ≤ x.mantissa := hnormal
    have hunits : x.units ≠ 0 := Nat.mul_ne_zero (by omega) (Nat.pow_pos (by decide)).ne'
    have hlog : Nat.log2 x.units = 52 + x.shift := by
      refine (Nat.log2_eq_iff hunits).2 ⟨?_, ?_⟩
      · calc 2 ^ (52 + x.shift) = 2 ^ 52 * 2 ^ x.shift := Nat.pow_add ..
          _ ≤ x.units := Nat.mul_le_mul_right _ hle
      · calc x.units < 2 ^ 53 * 2 ^ x.shift := Nat.mul_lt_mul_of_pos_right hlt (Nat.pow_pos (by decide))
          _ = 2 ^ (52 + x.shift + 1) := by rw [← Nat.pow_add]; congr 1; omega
    omega
  · have hunits : x.units = x.mantissa := by simp [units, hshift]
    rw [hunits, hshift]
    by_cases hzero : x.mantissa = 0
    · simp [hzero]
    · have := (Nat.log2_lt hzero).2 hlt
      omega

/-- A fraction that is a binary number is rounded to it. -/
theorem round_eq {negative : Bool} {num den : Nat} (hden : 0 < den)
    (h : num * Nat.pow 2 unitBits = x.units * den) :
    round negative num den = .finite { x with negative := negative } := by
  have hscaled : x.units * den = x.mantissa * (den * Nat.pow 2 x.shift) := by
    rw [units, Nat.mul_assoc, Nat.mul_comm (Nat.pow 2 x.shift)]
  have hpos : 0 < den * Nat.pow 2 x.shift := Nat.mul_pos hden (Nat.pow_pos (by decide))
  simp only [round, h, Nat.mul_div_cancel _ hden, log2_units_sub]
  rw [hscaled, roundDiv_mul_right hpos, ofForm, dif_pos ⟨x.mantissa_lt, x.shift_le, x.normal⟩]

theorem round_ne_nan (negative : Bool) (num den : Nat) : round negative num den ≠ .nan := by
  simp only [round, ofForm]
  split
  · simp
  · split <;> simp

/-- Every significand has its number, and so does the next power of two, if the shift leaves room for the leading bit
to be moved into its place. -/
theorem exists_units_eq {n shift : Nat} (hn : n ≤ 2 ^ 53) (hlow : 53 ≤ shift) (hhigh : shift < 2045) :
    ∃ x : Binary64, x.units = n * Nat.pow 2 shift := by
  by_cases htop : n = 2 ^ 53
  · refine ⟨⟨false, 2 ^ 52, shift + 1, by decide, hhigh, .inl (Nat.le_refl _)⟩, ?_⟩
    calc 2 ^ 52 * 2 ^ (shift + 1) = 2 ^ (53 + shift) := by rw [← Nat.pow_add]; congr 1; omega
      _ = 2 ^ 53 * 2 ^ shift := Nat.pow_add ..
      _ = n * 2 ^ shift := by rw [htop]
  by_cases hzero : n = 0
  · exact ⟨zero false, by simp [hzero, zero, units]⟩
  -- The leading bit goes to place 52, and the shift is less by as much.
  have hlog : n.log2 < 53 := (Nat.log2_lt hzero).2 (lt_of_le_of_ne hn htop)
  have hle : 2 ^ 52 ≤ n * 2 ^ (52 - n.log2) := by
    calc 2 ^ 52 = 2 ^ n.log2 * 2 ^ (52 - n.log2) := by rw [← Nat.pow_add]; congr 1; omega
      _ ≤ n * 2 ^ (52 - n.log2) := Nat.mul_le_mul_right _ (Nat.log2_self_le hzero)
  have hlt : n * 2 ^ (52 - n.log2) < 2 ^ 53 := by
    calc n * 2 ^ (52 - n.log2) < 2 ^ (n.log2 + 1) * 2 ^ (52 - n.log2) :=
          Nat.mul_lt_mul_of_pos_right Nat.lt_log2_self (Nat.pow_pos (by decide))
      _ = 2 ^ 53 := by rw [← Nat.pow_add]; congr 1; omega
  refine ⟨⟨false, n * 2 ^ (52 - n.log2), shift - (52 - n.log2), hlt, by omega, .inl hle⟩, ?_⟩
  calc n * 2 ^ (52 - n.log2) * 2 ^ (shift - (52 - n.log2)) = n * (2 ^ (52 - n.log2) * 2 ^ (shift - (52 - n.log2))) :=
        Nat.mul_assoc ..
    _ = n * 2 ^ shift := by rw [← Nat.pow_add]; congr 2; omega

end Binary64

namespace Double

variable {x y : Binary64} {n : Int}

theorem equal_finite : equal (.finite x) (.finite y) = true ↔ x.signedUnits = y.signedUnits := by
  simp [equal, compare?]

theorem equal_self_of_ne_nan : ∀ {d : Double}, d ≠ .nan → equal d d = true
  | .finite _, _ => equal_finite.2 rfl
  | .infinite negative, _ => by cases negative <;> rfl
  | .nan, h => absurd rfl h

theorem ofInt_ne_nan (n : Int) : ofInt n ≠ .nan := by
  rw [ofInt]
  split <;> exact Binary64.round_ne_nan _ _ _

/-- An integer with the magnitude of a binary number becomes that number. -/
theorem ofInt_eq (h : n.natAbs * Nat.pow 2 Binary64.unitBits = x.units) :
    ofInt n = .finite { x with negative := n < 0 } := by
  have hround (negative : Bool) : Binary64.round negative n.natAbs 1 = .finite { x with negative := negative } :=
    Binary64.round_eq Nat.one_pos (by rw [h, Nat.mul_one])
  rw [ofInt]
  by_cases hneg : n < 0
  · rw [if_pos hneg, hround, decide_eq_true hneg]
  · rw [if_neg hneg, Binary64.ofNat, hround, decide_eq_false hneg]

end Double

namespace Number

variable {m n : Number}

/-- The value of a number, as the fraction it is. -/
def value : Number → ℚ
  | .int n => n
  | .real x => x.value

/-- A number that rounding to binary leaves as it is. -/
def Exact (n : Number) : Prop :=
  ∃ x : Binary64, n.toDouble = .finite x ∧ x.value = n.value

theorem exact_real (x : Binary64) : (real x).Exact :=
  ⟨x, rfl, rfl⟩

theorem exact_int_of_units {n : Int} {x : Binary64} (h : n.natAbs * Nat.pow 2 Binary64.unitBits = x.units) :
    (int n).Exact :=
  ⟨{ x with negative := n < 0 }, Double.ofInt_eq h,
    (Binary64.intCast_eq_value_iff.2 (Binary64.signedUnits_with_sign h).symm).symm⟩

/-- Integers are exact as far as every one of them has a significand. -/
theorem exact_int_of_le {n : Int} (h : n.natAbs ≤ 2 ^ 53) : (int n).Exact :=
  have ⟨_, hx⟩ : ∃ x : Binary64, x.units = n.natAbs * Nat.pow 2 Binary64.unitBits :=
    Binary64.exists_units_eq h (by decide) (by decide)
  exact_int_of_units hx.symm

/-- Numbers that rounding leaves as they are compare by value. -/
theorem alike_iff_of_exact (hm : m.Exact) (hn : n.Exact) : m.alike n = true ↔ m.value = n.value := by
  obtain ⟨x, hx, hxvalue⟩ := hm
  obtain ⟨y, hy, hyvalue⟩ := hn
  rw [alike, hx, hy, Double.equal_finite, ← Binary64.value_eq_iff, hxvalue, hyvalue]

theorem exact_of_value_eq_real {x : Binary64} (h : m.value = x.value) : m.Exact := by
  cases m with
  | int n =>
      refine exact_int_of_units (x := x) ?_
      rw [← Binary64.natAbs_signedUnits, ← Binary64.intCast_eq_value_iff.1 h, Int.natAbs_mul, Int.natAbs_natCast]
  | real y => exact exact_real y

/-- Rounding never separates numbers of one value. -/
theorem alike_of_value_eq (h : m.value = n.value) : m.alike n = true := by
  cases m with
  | real x => exact (alike_iff_of_exact (exact_real x) (exact_of_value_eq_real h.symm)).2 h
  | int a =>
      cases n with
      | real y => exact (alike_iff_of_exact (exact_of_value_eq_real h) (exact_real y)).2 h
      | int b =>
          obtain rfl : a = b := Int.cast_injective h
          exact Double.equal_self_of_ne_nan (Double.ofInt_ne_nan a)

/-- Two numbers of one kind: both integers or both binary numbers. -/
def SameKind : Number → Number → Prop
  | .int _, .int _ | .real _, .real _ => True
  | _, _ => False

/-- The strict comparison is by value and by kind. -/
theorem same_iff (m n : Number) : m.same n = true ↔ m.value = n.value ∧ m.SameKind n := by
  cases m <;> cases n <;> simp [same, value, SameKind, Binary64.value_eq_iff]

end Number

end Attest

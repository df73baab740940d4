import Attest.Proofs.Number.Nearest
import Attest.Proofs.Number.Reading
import Attest.Rule.Check

/-!
Which integers the rules about the size of a number accept.

A number is rounded to binary before it is compared with a bound, and a bound is a binary number. Rounding takes no
number past a binary number, but it may take it to one. So an integer on the right side of a bound is always accepted,
and one on the wrong side only if it is rounded to the bound itself. Up to `2 ^ 53` in magnitude no integer is rounded,
and none is ever rounded to zero but zero.
-/

namespace Attest

variable {n : Int} {x : Binary64}

theorem Number.natAbs_lt_of_inRange (h : (Number.int n).InRange) : n.natAbs < 2 ^ 64 := by
  obtain ⟨hlow, hhigh⟩ := h
  have hleast : Int.pow 2 63 = 9223372036854775808 := rfl
  have hgreatest : Int.pow 2 64 = 18446744073709551616 := rfl
  omega

theorem Number.Exact.value_eq (h : (Number.int n).Exact) (hx : Double.ofInt n = .finite x) : x.value = n := by
  obtain ⟨y, hy, hvalue⟩ := h
  obtain rfl : y = x := Double.finite.inj (hy.symm.trans hx)
  exact hvalue

namespace Binary64

/-- Rounding takes no integer past one that is a binary number itself. -/
theorem Nearest.intCast_le {k : Int} (h : x.Nearest n) (hk : k.natAbs ≤ 2 ^ 53) (hle : k ≤ n) : (k : ℚ) ≤ x.value := by
  obtain ⟨y, -, hy⟩ := Number.exact_int_of_le hk
  replace hy : y.value = k := hy
  exact hy ▸ (h.le_value_iff y).2 (.inl (hy ▸ Int.cast_le.2 hle))

theorem Nearest.le_intCast {k : Int} (h : x.Nearest n) (hk : k.natAbs ≤ 2 ^ 53) (hle : n ≤ k) : x.value ≤ (k : ℚ) := by
  obtain ⟨y, -, hy⟩ := Number.exact_int_of_le hk
  replace hy : y.value = k := hy
  exact hy ▸ (h.value_le_iff y).2 (.inl (hy ▸ Int.cast_le.2 hle))

theorem Nearest.pos_iff (h : x.Nearest n) : 0 < x.value ↔ 0 < n := by
  constructor
  · intro hx
    by_contra! hn
    have hle : x.value ≤ ((0 : Int) : ℚ) := h.le_intCast (by decide) hn
    exact hx.not_ge (by rwa [Int.cast_zero] at hle)
  · intro hn
    have hle : ((1 : Int) : ℚ) ≤ x.value := h.intCast_le (by decide) hn
    exact lt_of_lt_of_le (by norm_num) hle

theorem Nearest.neg_iff (h : x.Nearest n) : x.value < 0 ↔ n < 0 := by
  constructor
  · intro hx
    by_contra! hn
    have hle : ((0 : Int) : ℚ) ≤ x.value := h.intCast_le (by decide) hn
    exact hx.not_ge (by rwa [Int.cast_zero] at hle)
  · intro hn
    have hle : x.value ≤ ((-1 : Int) : ℚ) := h.le_intCast (by decide) (by omega)
    exact lt_of_le_of_lt hle (by norm_num)

end Binary64

namespace Rule

variable {now : Timestamp} {parent : Json}

/-- **Integers are compared with bounds after rounding**, which moves none of them across a bound. Let an integer of a
document be rounded to the binary number that is nearest to it, which has its value up to `2 ^ 53` in magnitude. A bound
accepts the integer if it lies on the right side of the bound, and else only if the bound is what it is rounded to; a
range asks this of both its bounds. The rules about the sign are exact. -/
theorem bounds_exact_up_to_rounding (h : (Number.int n).InRange) (now : Timestamp) (parent : Json) :
    ∃ x : Binary64, (Number.int n).toDouble = .finite x ∧ x.Nearest n ∧ (n.natAbs ≤ 2 ^ 53 → x.value = n) ∧
      (∀ a : Binary64, (min (.finite a)).accepts now (.number (.int n)) parent = true ↔
        a.value ≤ n ∨ a.value = x.value) ∧
      (∀ b : Binary64, (max (.finite b)).accepts now (.number (.int n)) parent = true ↔
        n ≤ b.value ∨ b.value = x.value) ∧
      (∀ a b : Binary64, (range (.finite a) (.finite b)).accepts now (.number (.int n)) parent = true ↔
        (a.value ≤ n ∨ a.value = x.value) ∧ (n ≤ b.value ∨ b.value = x.value)) ∧
      (positive.accepts now (.number (.int n)) parent = true ↔ 0 < n) ∧
      (negative.accepts now (.number (.int n)) parent = true ↔ n < 0) := by
  obtain ⟨x, hx, hnearest⟩ := Double.exists_ofInt_eq (Number.natAbs_lt_of_inRange h)
  obtain ⟨zero, hzero, hvalue⟩ := Number.exact_int_of_le (n := 0) (by decide)
  replace hzero : Double.ofInt 0 = .finite zero := hzero
  replace hvalue : zero.value = 0 := hvalue.trans Int.cast_zero
  refine ⟨x, hx, hnearest, fun hsmall => (Number.exact_int_of_le hsmall).value_eq hx, fun a => ?_, fun b => ?_,
    fun a b => ?_, ?_, ?_⟩
  · rw [accepts, Json.isNumber, Number.toDouble, hx, Double.atMost_finite, hnearest.le_value_iff]
  · rw [accepts, Json.isNumber, Number.toDouble, hx, Double.atMost_finite, hnearest.value_le_iff]
  · rw [accepts, Json.isNumber, Number.toDouble, hx, Bool.and_eq_true, Double.atMost_finite, Double.atMost_finite,
      hnearest.le_value_iff, hnearest.value_le_iff]
  · rw [accepts, Json.isNumber, Number.toDouble, hx, hzero, Double.less_finite, hvalue, hnearest.pos_iff]
  · rw [accepts, Json.isNumber, Number.toDouble, hx, hzero, Double.less_finite, hvalue, hnearest.neg_iff]

/-- `2 ^ 53` as a binary number. -/
def significandEnd : Binary64 :=
  ⟨false, 4503599627370496, 1075, by decide, by decide, .inl (by decide)⟩

/-- The second binary number after `2 ^ 53`, which is greater by four. -/
def pastSignificandEnd : Binary64 :=
  ⟨false, 4503599627370498, 1075, by decide, by decide, .inl (by decide)⟩

theorem significandEnd_value : ((9007199254740992 : Int) : ℚ) = significandEnd.value :=
  Binary64.intCast_eq_value_iff.2 (by decide +kernel)

theorem pastSignificandEnd_value : ((9007199254740996 : Int) : ℚ) = pastSignificandEnd.value :=
  Binary64.intCast_eq_value_iff.2 (by decide +kernel)

theorem bounds_exact_up_to_rounding_pastSignificands :
    (Number.int 9007199254740993).InRange ∧
      (min (.finite significandEnd)).accepts ⟨0, 0⟩ (.number (.int 9007199254740993)) .null = true ∧
      (max (.finite pastSignificandEnd)).accepts ⟨0, 0⟩ (.number (.int 9007199254740993)) .null = true ∧
      (range (.finite significandEnd) (.finite pastSignificandEnd)).accepts ⟨0, 0⟩ (.number (.int 9007199254740993))
        .null = true ∧
      negative.accepts ⟨0, 0⟩ (.number (.int 9007199254740993)) .null = false := by
  have hrange : (Number.int 9007199254740993).InRange := ⟨by decide, by decide⟩
  obtain ⟨x, -, -, -, hmin, hmax, hrangeRule, -, hnegative⟩ := bounds_exact_up_to_rounding hrange ⟨0, 0⟩ .null
  have hlow : significandEnd.value ≤ ((9007199254740993 : Int) : ℚ) := by
    rw [← significandEnd_value, Int.cast_le]
    decide
  have hhigh : ((9007199254740993 : Int) : ℚ) ≤ pastSignificandEnd.value := by
    rw [← pastSignificandEnd_value, Int.cast_le]
    decide
  refine ⟨hrange, (hmin _).2 (.inl hlow), (hmax _).2 (.inl hhigh), (hrangeRule _ _).2 ⟨.inl hlow, .inl hhigh⟩,
    Bool.eq_false_iff.2 fun h => ?_⟩
  exact absurd (hnegative.1 h) (by decide)

/-- The first integer after `2 ^ 53` is accepted under that bound, as it is rounded down to it; and the third is
accepted above a bound that is greater by one, as it is rounded up to it. -/
theorem accepted_beyond_bound :
    ((Number.int 9007199254740993).InRange ∧ ¬ ((9007199254740993 : Int) : ℚ) ≤ significandEnd.value ∧
      (max (.finite significandEnd)).accepts ⟨0, 0⟩ (.number (.int 9007199254740993)) .null = true) ∧
    ((Number.int 9007199254740995).InRange ∧ ¬ pastSignificandEnd.value ≤ ((9007199254740995 : Int) : ℚ) ∧
      (min (.finite pastSignificandEnd)).accepts ⟨0, 0⟩ (.number (.int 9007199254740995)) .null = true) := by
  refine ⟨⟨⟨by decide, by decide⟩, ?_, by decide +kernel⟩, ⟨⟨by decide, by decide⟩, ?_, by decide +kernel⟩⟩
  · rw [← significandEnd_value, Int.cast_le]
    decide
  · rw [← pastSignificandEnd_value, Int.cast_le]
    decide

end Rule

end Attest

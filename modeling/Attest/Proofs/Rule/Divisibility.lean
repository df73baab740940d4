import Attest.Proofs.Number.Rounding
import Attest.Rule.Check

/-!
Which numbers are multiples of a divisor, which are even and which are odd.

A number is asked as the integer that it equals, if it equals one that is small enough for its kind: then nothing has
been rounded, and what is said about the integer is right. With one exception. The quotient of two 64-bit integers is
asked to be one too, and a single quotient is not: that of the least integer by minus one.
-/

namespace Attest

/-! ### Numbers as integers -/

/-- The integer of a number is the quotient of its units by those of one, if that leaves nothing over. -/
theorem Binary64.toInt?_eq (x : Binary64) :
    x.toInt? = if ((Nat.pow 2 unitBits : Nat) : Int) ∣ x.signedUnits then
      some (x.signedUnits / (Nat.pow 2 unitBits : Nat)) else none := by
  rw [toInt?, signedUnits]
  generalize Nat.pow 2 unitBits = one
  generalize x.units = units
  have hdvd : (one : Int) ∣ units ↔ units % one = 0 := by
    rw [Int.natCast_dvd_natCast, Nat.dvd_iff_mod_eq_zero]
  cases x.negative with
  | false => simp [hdvd]
  | true =>
      by_cases hmod : units % one = 0
      · simp [hmod, hdvd, Int.neg_ediv_of_dvd (hdvd.2 hmod)]
      · simp [hmod, hdvd]

theorem Binary64.toInt?_eq_some_iff {x : Binary64} {n : Int} : x.toInt? = some n ↔ x.value = n := by
  have hpow (bits : Nat) : ((Nat.pow 2 bits : Nat) : Int) ≠ 0 := Nat.cast_ne_zero.2 (Nat.two_pow_pos bits).ne'
  have hne := hpow unitBits
  rw [eq_comm (a := x.value), intCast_eq_value_iff, toInt?_eq, Option.ite_none_right_eq_some, Option.some.injEq]
  generalize ((Nat.pow 2 unitBits : Nat) : Int) = one at hne ⊢
  constructor
  · rintro ⟨hdvd, rfl⟩
    exact Int.ediv_mul_cancel hdvd
  · intro h
    rw [← h]
    exact ⟨Int.dvd_mul_left n one, Int.mul_ediv_cancel n hne⟩

namespace Number

/-- The integers that a number of a kind is asked as: those of 64 bits, and among binary numbers those in a range
where none is left out. -/
def Reaches : Number → Int → Prop
  | .int _, n => -2 ^ 63 ≤ n ∧ n < 2 ^ 63
  | .real _, n => |n| < 2 ^ 53

/-- **A number is asked as the integer that it equals**, as far as its kind reaches. -/
theorem toInteger?_eq_some_iff {m : Number} {n : Int} : m.toInteger? = some n ↔ m.value = n ∧ m.Reaches n := by
  cases m with
  | int k =>
      rw [toInteger?, Option.ite_none_right_eq_some, Option.some.injEq, and_comm, value, Int.cast_inj, Reaches]
      refine and_congr_right ?_
      rintro rfl
      exact Iff.rfl
  | real x =>
      have hsmall : n.natAbs < Nat.pow 2 53 ↔ |n| < 2 ^ 53 := by
        rw [← Int.natCast_natAbs]
        exact Int.ofNat_lt.symm
      simp only [toInteger?, Option.filter_eq_some_iff, Binary64.toInt?_eq_some_iff, value, Reaches, hsmall,
        decide_eq_true_eq]

end Number

theorem Json.bounds_of_toInteger? {v : Json} {n : Int} (h : v.toInteger? = some n) : -2 ^ 63 ≤ n ∧ n < 2 ^ 63 := by
  obtain ⟨m, -, hm⟩ := Option.bind_eq_some_iff.1 h
  have hreaches := (Number.toInteger?_eq_some_iff.1 hm).2
  cases m with
  | int k => exact hreaches
  | real x =>
      obtain ⟨hlow, hhigh⟩ := abs_lt.1 hreaches
      omega

/-! ### Quotients -/

/-- The only quotient of two 64-bit integers that is none itself. -/
def QuotientOverflows (n divisor : Int) : Prop :=
  n = -2 ^ 63 ∧ divisor = -1

theorem quotient_lt_iff {n divisor : Int} (hlow : -2 ^ 63 ≤ n) (hhigh : n < 2 ^ 63) (hne : divisor ≠ 0)
    (hdvd : divisor ∣ n) : n / divisor < 2 ^ 63 ↔ ¬QuotientOverflows n divisor := by
  obtain ⟨quotient, rfl⟩ := hdvd
  rw [Int.mul_ediv_cancel_left quotient hne]
  constructor
  · rintro hlt ⟨hn, rfl⟩
    omega
  · intro hfits
    by_contra hlarge
    have hlarge : 2 ^ 63 ≤ quotient := not_lt.1 hlarge
    have hpos : 0 ≤ quotient := by omega
    -- A quotient so large leaves no room for a divisor but one of magnitude one.
    rcases lt_trichotomy divisor (-1) with hdivisor | rfl | hdivisor
    · have := Int.mul_le_mul_of_nonneg_right (show divisor ≤ -2 by omega) hpos
      omega
    · exact hfits ⟨by omega, rfl⟩
    · have := Int.mul_le_mul_of_nonneg_right (show 1 ≤ divisor by omega) hpos
      omega

theorem Json.isDivisibleBy_iff {v : Json} {n : Int} (h : v.toInteger? = some n) (divisor : Int) :
    v.isDivisibleBy divisor = true ↔ divisor ≠ 0 ∧ divisor ∣ n ∧ ¬QuotientOverflows n divisor := by
  obtain ⟨hlow, hhigh⟩ := bounds_of_toInteger? h
  simp only [isDivisibleBy, h, Bool.and_eq_true, bne_iff_ne, beq_iff_eq, decide_eq_true_eq, and_assoc,
    ← Int.dvd_iff_emod_eq_zero]
  exact and_congr_right fun hne => and_congr_right fun hdvd => quotient_lt_iff hlow hhigh hne hdvd

namespace Rule

/-- **Divisibility is exact unless the quotient overflows.** A number is asked as the integer that it equals: an integer
of 64 bits, and a binary number of a whole value below `2 ^ 53`. It is found to be a multiple of a divisor just if it is
one and the divisor is not zero, but for the least integer and minus one. And it is found even just if it is a multiple
of two, and odd just if it is not, whatever its sign. -/
theorem divisible_unless_overflow {v : Json} {n : Int} (h : v.toInteger? = some n) (now : Timestamp) (parent : Json) :
    (∀ (m : Number) (k : Int), (Json.number m).toInteger? = some k ↔ m.value = k ∧ m.Reaches k) ∧
    (∀ divisor : Int, (v.isDivisibleBy divisor = true ↔ divisor ≠ 0 ∧ divisor ∣ n ∧ ¬QuotientOverflows n divisor) ∧
      (divisibleBy divisor).accepts now v parent = v.isDivisibleBy divisor) ∧
    (even.accepts now v parent = true ↔ 2 ∣ n) ∧
    (odd.accepts now v parent = true ↔ ¬ 2 ∣ n) := by
  refine ⟨fun m k => Number.toInteger?_eq_some_iff, fun divisor => ⟨Json.isDivisibleBy_iff h divisor, rfl⟩, ?_, ?_⟩
  · simp only [accepts, h, Option.any_some, decide_eq_true_eq, Int.dvd_iff_emod_eq_zero]
  · simp only [accepts, h, Option.any_some, decide_eq_true_eq, Int.dvd_iff_emod_eq_zero, ne_eq]

theorem divisible_unless_overflow_least :
    (Json.number (.int (-2 ^ 63))).toInteger? = some (-2 ^ 63) ∧
      (Json.number (.int (-2 ^ 63))).isDivisibleBy (-2 ^ 63) = true ∧
      (Json.number (.int (-2 ^ 63))).isDivisibleBy 3 = false ∧
      even.accepts ⟨0, 0⟩ (.number (.int (-2 ^ 63))) .null = true := by
  have hleast : (Json.number (.int (-2 ^ 63))).toInteger? = some (-2 ^ 63) := by decide
  obtain ⟨-, hdivisor, heven, -⟩ := divisible_unless_overflow hleast ⟨0, 0⟩ .null
  refine ⟨hleast, (hdivisor _).1.2 ⟨by decide, Int.dvd_refl _, fun h => absurd h.2 (by decide)⟩,
    Bool.eq_false_iff.2 fun hthree => ?_, heven.2 (by decide)⟩
  exact absurd ((hdivisor 3).1.1 hthree).2.1 (by decide)

/-- The least integer is a multiple of minus one, and is not found to be. -/
theorem least_not_found_divisible :
    (Json.number (.int (-9223372036854775808))).toInteger? = some (-9223372036854775808) ∧
      (-1 : Int) ≠ 0 ∧ (-1 : Int) ∣ -9223372036854775808 ∧
      (Json.number (.int (-9223372036854775808))).isDivisibleBy (-1) = false := by
  decide

end Rule

end Attest

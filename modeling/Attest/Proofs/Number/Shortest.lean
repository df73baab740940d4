import Attest.Proofs.Number.Rounding
import Mathlib.Algebra.Order.Field.Power
import Mathlib.Tactic.Ring

/-!
The shortest decimal of a number is read back as that number, and its significand does not end in zero.

What is read of a decimal depends on its value alone, since rounding sees nothing of a fraction but the quotient. So
zeros at the end of the significand may be dropped, and numbers with the same sign whose shortest decimals have the same
value are the same number.
-/

namespace Attest

namespace Binary64

variable {x : Binary64} {num den : Nat}

theorem roundDiv_mul_left {c : Nat} (hc : 0 < c) (num den : Nat) :
    roundDiv (c * num) (c * den) = roundDiv num den := by
  have hmod : 2 * (c * num % (c * den)) = c * (2 * (num % den)) := by
    rw [Nat.mul_mod_mul_left, Nat.mul_left_comm]
  simp only [roundDiv, Nat.mul_div_mul_left _ _ hc, hmod, gt_iff_lt, Nat.mul_lt_mul_left hc,
    Nat.mul_right_inj hc.ne']

theorem round_mul_left {c : Nat} (hc : 0 < c) (negative : Bool) (num den : Nat) :
    round negative (c * num) (c * den) = round negative num den := by
  simp only [round, Nat.mul_assoc, Nat.mul_div_mul_left _ _ hc, roundDiv_mul_left hc]

/-- Rounding sees nothing of a fraction but its value. -/
theorem round_congr {num' den' : Nat} (negative : Bool) (hden : 0 < den) (hden' : 0 < den')
    (h : (num / den : ℚ) = num' / den') : round negative num den = round negative num' den' := by
  have hcross : num * den' = num' * den := by
    rw [div_eq_div_iff (Nat.cast_ne_zero.2 hden.ne') (Nat.cast_ne_zero.2 hden'.ne')] at h
    exact_mod_cast h
  rw [← round_mul_left hden' negative num den, ← round_mul_left hden negative num' den', Nat.mul_comm den' num,
    hcross, Nat.mul_comm num' den, Nat.mul_comm den' den]

/-- Both zeros have no units, and a number without units is the zero of its sign. -/
theorem eq_zero_of_isZero (h : x.isZero = true) : x = zero x.negative := by
  obtain ⟨negative, mantissa, shift, _, _, hnormal⟩ := x
  obtain rfl : mantissa = 0 := beq_iff_eq.1 h
  obtain rfl : shift = 0 := hnormal.resolve_left (by decide)
  rfl

end Binary64

namespace Decimal

variable {tiesUp : Bool} {x y : Binary64} {d e : Decimal}

/-- The value of a decimal, as the fraction it is. -/
def value (d : Decimal) : ℚ :=
  d.digits * 10 ^ d.exponent

theorem exists_nearest_eq_round (d : Decimal) : ∃ num den : Nat, 0 < den ∧ (num / den : ℚ) = d.value ∧
    ∀ negative, nearest negative d = Binary64.round negative num den := by
  by_cases hexp : d.exponent < 0
  · refine ⟨d.digits, 10 ^ (-d.exponent).toNat, Nat.pow_pos (by decide), ?_, fun negative => if_pos hexp⟩
    obtain ⟨n, hn⟩ : ∃ n : Nat, d.exponent = -(n : Int) := ⟨(-d.exponent).toNat, by omega⟩
    rw [value, hn, neg_neg, Int.toNat_natCast, zpow_neg, zpow_natCast, Nat.cast_pow, div_eq_mul_inv]
    rfl
  · refine ⟨d.digits * 10 ^ d.exponent.toNat, 1, Nat.one_pos, ?_, fun negative => if_neg hexp⟩
    obtain ⟨n, hn⟩ : ∃ n : Nat, d.exponent = (n : Int) := ⟨d.exponent.toNat, by omega⟩
    rw [value, hn, Int.toNat_natCast, zpow_natCast, Nat.cast_mul, Nat.cast_pow, Nat.cast_one, div_one]
    rfl

/-- What is read of a decimal depends on its value alone. -/
theorem nearest_congr (negative : Bool) (h : d.value = e.value) : nearest negative d = nearest negative e := by
  obtain ⟨num, den, hden, hvalue, hround⟩ := exists_nearest_eq_round d
  obtain ⟨num', den', hden', hvalue', hround'⟩ := exists_nearest_eq_round e
  rw [hround, hround']
  exact Binary64.round_congr negative hden hden' (by rw [hvalue, h, hvalue'])

/-! ### Reading back -/

/-- Zero is read back as zero, whatever its exponent. -/
theorem nearest_zero (negative : Bool) (exponent : Int) :
    nearest negative ⟨0, exponent⟩ = .finite (.zero negative) := by
  have hround (den : Nat) : Binary64.round negative 0 den = .finite (.zero negative) := by
    have hshift : Nat.log2 0 - 52 = 0 := rfl
    have hdiv : Binary64.roundDiv 0 (den * Nat.pow 2 0) = 0 := by
      simp [Binary64.roundDiv]
    simp only [Binary64.round, Nat.zero_mul, Nat.zero_div, hshift, hdiv]
    rfl
  rw [nearest]
  split
  · exact hround _
  · rw [Nat.zero_mul]
    exact hround 1

theorem digits_pos_of_nearest (hx : x.isZero = false) (h : nearest x.negative d = .finite x) : 0 < d.digits := by
  refine Nat.pos_of_ne_zero fun hzero => ?_
  obtain ⟨digits, exponent⟩ := d
  obtain rfl : digits = 0 := hzero
  rw [nearest_zero] at h
  have hmantissa : 0 = x.mantissa := congrArg Binary64.mantissa (Double.finite.inj h)
  rw [Binary64.isZero, ← hmantissa] at hx
  cases hx

theorem nearestDigits_eq_or (tiesUp : Bool) (num den : Nat) :
    nearestDigits tiesUp num den = num / den + 1 ∨ nearestDigits tiesUp num den = num / den := by
  cases tiesUp
  · exact ite_eq_or_eq (2 * (num % den) > den ∨ 2 * (num % den) = den ∧ num / den % 2 = 1) (num / den + 1) (num / den)
  · exact ite_eq_or_eq (den ≤ 2 * (num % den)) (num / den + 1) (num / den)

theorem nearest_shortestOf {count : Nat} (h : shortestOf tiesUp x count = some d) : nearest x.negative d = .finite x := by
  unfold shortestOf at h
  dsimp only at h
  -- How the grid was chosen plays no part, and its numbers are better not computed.
  generalize leadingPlace _ _ - (count : Int) + 1 = place at h
  generalize onGrid _ _ _ = grid at h
  obtain ⟨num, den⟩ := grid
  dsimp only at h
  split_ifs at h with hboth hbelow habove
  · obtain rfl := Option.some.inj h
    obtain ⟨hbelow, habove⟩ := Bool.and_eq_true_iff.1 hboth
    -- The nearer of the two grid points is one of them.
    rcases nearestDigits_eq_or tiesUp num den with hround | hround
    · exact (congrArg (fun digits => nearest x.negative ⟨digits, place⟩) hround).trans (beq_iff_eq.1 habove)
    · exact (congrArg (fun digits => nearest x.negative ⟨digits, place⟩) hround).trans (beq_iff_eq.1 hbelow)
  · obtain rfl := Option.some.inj h
    exact beq_iff_eq.1 hbelow
  · obtain rfl := Option.some.inj h
    exact beq_iff_eq.1 habove

theorem nearest_exact (x : Binary64) : nearest x.negative (exact x) = .finite x := by
  have hneg : -(Binary64.unitBits : Int) < 0 := by decide
  have hten (bits : Nat) : 0 < Nat.pow 10 bits := Nat.pow_pos (Nat.succ_pos 9)
  have hfactors (bits : Nat) : Nat.pow 5 bits * Nat.pow 2 bits = Nat.pow 10 bits := (Nat.mul_pow 5 2 bits).symm
  rw [exact, nearest, if_pos hneg, Int.neg_neg, Int.toNat_natCast]
  exact Binary64.round_eq (hten _) (by rw [Nat.mul_assoc, hfactors])

theorem value_trimZeros (fuel : Nat) (d : Decimal) : (trimZeros fuel d).value = d.value := by
  induction fuel generalizing d with
  | zero => rfl
  | succ fuel ih =>
      rw [trimZeros]
      split
      next htrim =>
        obtain ⟨n, hn⟩ := Nat.dvd_of_mod_eq_zero htrim.2
        rw [ih, value, value, zpow_add₀ (by norm_num), zpow_one, hn, Nat.mul_div_cancel_left n (by decide)]
        push_cast
        ring
      next => rfl

/-- What the search ends with, before zeros are dropped. -/
theorem nearest_found (tiesUp : Bool) (x : Binary64) :
    nearest x.negative (((List.range 17).findSome? fun i => shortestOf tiesUp x (i + 1)).getD (exact x)) = .finite x := by
  cases hfound : (List.range 17).findSome? fun i => shortestOf tiesUp x (i + 1) with
  | some d =>
      obtain ⟨i, -, hd⟩ := List.exists_of_findSome?_eq_some hfound
      exact nearest_shortestOf hd
  | none => exact nearest_exact x

/-- **The shortest decimal is read back** as the number that it was found for. -/
theorem nearest_shortest (tiesUp : Bool) (x : Binary64) : nearest x.negative (shortest tiesUp x) = .finite x := by
  rw [shortest, nearest_congr x.negative (value_trimZeros _ _)]
  exact nearest_found tiesUp x

theorem digits_shortest_pos (hx : x.isZero = false) : 0 < (shortest tiesUp x).digits :=
  digits_pos_of_nearest hx (nearest_shortest tiesUp x)

/-- Numbers of one sign are told apart by the values of their shortest decimals. -/
theorem eq_of_shortest_value (hsign : x.negative = y.negative) (h : (shortest tiesUp x).value = (shortest tiesUp y).value) :
    x = y := by
  have hx := nearest_shortest tiesUp x
  rw [hsign, nearest_congr y.negative h, nearest_shortest tiesUp y] at hx
  exact (Double.finite.inj hx).symm

/-! ### The last digit -/

theorem trimZeros_mod_ne_zero {fuel : Nat} {d : Decimal} (hpos : 0 < d.digits) (hfuel : d.digits < 10 ^ fuel) :
    (trimZeros fuel d).digits % 10 ≠ 0 := by
  induction fuel generalizing d with
  | zero => omega
  | succ fuel ih =>
      rw [trimZeros]
      split
      next htrim =>
        rw [Nat.pow_succ] at hfuel
        exact ih (show 0 < d.digits / 10 by omega) (show d.digits / 10 < 10 ^ fuel by omega)
      next htrim => exact fun hzero => htrim ⟨hpos.ne', hzero⟩

theorem digits_shortest_mod_ne_zero (hx : x.isZero = false) : (shortest tiesUp x).digits % 10 ≠ 0 := by
  have hpos := digits_pos_of_nearest hx (nearest_found tiesUp x)
  rw [shortest]
  generalize ((List.range 17).findSome? fun i => shortestOf tiesUp x (i + 1)).getD (exact x) = found at hpos ⊢
  refine trimZeros_mod_ne_zero hpos ?_
  exact (Nat.length_toDigits_le_iff (by decide) Nat.length_toDigits_pos).1 (Nat.le_refl _)

/-! ### The place of the first digit -/

theorem digitCount_le {n k : Nat} (hk : 0 < k) (h : n < 10 ^ k) : digitCount n ≤ k :=
  (Nat.length_toDigits_le_iff (by decide) hk).2 h

theorem natAbs_leadingPlace_le {num den k : Nat} (hk : 0 < k) (hnum : num < 10 ^ k) (hden : den < 10 ^ k) :
    (leadingPlace num den).natAbs ≤ k := by
  have hfront := digitCount_le hk ((Nat.div_le_self num den).trans_lt hnum)
  have hback := digitCount_le hk ((Nat.div_le_self (den - 1) num).trans_lt (by omega))
  rw [leadingPlace]
  split <;> omega

theorem onGrid_fst_lt {num den k : Nat} {place : Int} (hnum : num < 10 ^ k) :
    (onGrid num den place).1 < 10 ^ (k + place.natAbs) := by
  have hle (n : Nat) (hn : n ≤ place.natAbs) : num * 10 ^ n < 10 ^ (k + place.natAbs) := by
    rw [Nat.pow_add]
    exact Nat.mul_lt_mul_of_lt_of_le hnum (Nat.pow_le_pow_right (by decide) hn) (Nat.pow_pos (by decide))
  rw [onGrid]
  split
  · exact hle (-place).toNat (by omega)
  · simpa using hle 0 (Nat.zero_le _)

/-- A decimal whose exponent and whose digits are not more than so many. -/
structure Within (n : Nat) (d : Decimal) : Prop where
  exponent : d.exponent.natAbs ≤ n
  digits : digitCount d.digits ≤ n

theorem Within.mono {m n : Nat} (h : d.Within m) (hle : m ≤ n) : d.Within n :=
  ⟨h.exponent.trans hle, h.digits.trans hle⟩

theorem within_shortestOf {count k : Nat} (hk : 0 < k) (hx : x.units < 10 ^ k) (hunit : Nat.pow 2 Binary64.unitBits < 10 ^ k)
    (h : shortestOf tiesUp x count = some d) : d.Within (2 * k + count + 2) := by
  have hleading := natAbs_leadingPlace_le hk hx hunit
  unfold shortestOf at h
  dsimp only at h
  generalize hplace : leadingPlace _ _ - (count : Int) + 1 = place at h
  have hnum : (onGrid x.units (Nat.pow 2 Binary64.unitBits) place).1 < 10 ^ (k + place.natAbs) := onGrid_fst_lt hx
  generalize onGrid _ _ _ = grid at h hnum
  obtain ⟨num, den⟩ := grid
  dsimp only at h hnum
  have hexponent : place.natAbs ≤ 2 * k + count + 2 := by omega
  have hdigits {n : Nat} (hn : n ≤ num / den + 1) : digitCount n ≤ 2 * k + count + 2 := by
    refine digitCount_le (by omega) ?_
    have := Nat.div_le_self num den
    calc n ≤ num + 1 := by omega
      _ ≤ 10 ^ (k + place.natAbs) := hnum
      _ < 10 ^ (2 * k + count + 2) := Nat.pow_lt_pow_right (by decide) (by omega)
  have hnearest : nearestDigits tiesUp num den ≤ num / den + 1 := by
    rcases nearestDigits_eq_or tiesUp num den with hround | hround <;> omega
  split_ifs at h with hboth hbelow habove <;> obtain rfl := Option.some.inj h
  · exact ⟨hexponent, hdigits hnearest⟩
  · exact ⟨hexponent, hdigits (Nat.le_succ _)⟩
  · exact ⟨hexponent, hdigits (Nat.le_refl _)⟩

theorem within_exact {k : Nat} (hk : 0 < k) (hx : x.units < 10 ^ k) : (exact x).Within (k + Binary64.unitBits) := by
  have hfive (bits : Nat) : x.units * Nat.pow 5 bits < 10 ^ (k + bits) := by
    rw [Nat.pow_add]
    exact Nat.mul_lt_mul_of_lt_of_le hx (Nat.pow_le_pow_left (by decide) bits) (Nat.pow_pos (by decide))
  refine ⟨?_, digitCount_le (by omega) (hfive _)⟩
  rw [exact, Int.natAbs_neg, Int.natAbs_natCast]
  omega

theorem place_trimZeros (fuel : Nat) (d : Decimal) : (trimZeros fuel d).exponent + digitCount (trimZeros fuel d).digits =
    d.exponent + digitCount d.digits := by
  induction fuel generalizing d with
  | zero => rfl
  | succ fuel ih =>
      rw [trimZeros]
      split
      next htrim =>
        have hcount : digitCount d.digits = digitCount (d.digits / 10) + 1 := by
          rw [digitCount, Nat.toDigits_eq_if (by decide), if_neg (by omega), List.length_append]
          rfl
        rw [ih, hcount]
        push_cast
        omega
      next => rfl

theorem exists_units_lt (x : Binary64) :
    ∃ k, 0 < k ∧ k ≤ 2098 ∧ x.units < 10 ^ k ∧ Nat.pow 2 Binary64.unitBits < 10 ^ k := by
  have hten {n k : Nat} (h : n ≤ k) : 2 ^ n ≤ 10 ^ k :=
    (Nat.pow_le_pow_left (by decide) n).trans (Nat.pow_le_pow_right (by decide) h)
  have hunit {bits k : Nat} (h : bits < k) : Nat.pow 2 bits < 10 ^ k :=
    (Nat.pow_lt_pow_right (by decide) h).trans_le (hten (Nat.le_refl k))
  have hshift := x.shift_le
  have hbits : Binary64.unitBits ≤ 2045 := by decide
  refine ⟨53 + max x.shift Binary64.unitBits, by omega, by omega, ?_, hunit (by omega)⟩
  calc x.units < 2 ^ 53 * 2 ^ x.shift :=
        Nat.mul_lt_mul_of_lt_of_le x.mantissa_lt (Nat.le_refl _) (Nat.pow_pos (by decide))
    _ = 2 ^ (53 + x.shift) := (Nat.pow_add 2 53 x.shift).symm
    _ ≤ 10 ^ (53 + max x.shift Binary64.unitBits) := hten (by omega)

/-- The place of the first digit fits a word by far. -/
theorem natAbs_place_shortest_lt (tiesUp : Bool) (x : Binary64) :
    ((shortest tiesUp x).exponent + digitCount (shortest tiesUp x).digits - 1).natAbs < 2 ^ 63 := by
  obtain ⟨k, hpos, hle, hx, hunit⟩ := exists_units_lt x
  have hbits : Binary64.unitBits ≤ 2045 := by decide
  have hwithin : (((List.range 17).findSome? fun i => shortestOf tiesUp x (i + 1)).getD (exact x)).Within 5000 := by
    cases hfound : (List.range 17).findSome? fun i => shortestOf tiesUp x (i + 1) with
    | some d =>
        obtain ⟨i, hi, hd⟩ := List.exists_of_findSome?_eq_some hfound
        have hi := List.mem_range.1 hi
        exact (within_shortestOf hpos hx hunit hd).mono (by omega)
    | none => exact (within_exact hpos hx).mono (by omega)
  obtain ⟨hexponent, hdigits⟩ := hwithin
  rw [shortest, place_trimZeros]
  omega

end Decimal

end Attest

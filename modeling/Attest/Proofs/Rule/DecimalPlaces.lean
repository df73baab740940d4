import Attest.Proofs.Number.Layout
import Attest.Rule.Check

/-!
How many decimals the text of a number has.

The text of a number denotes its decimal, which is whole or whose last digit is needed. So the digits behind its point
are as many as it takes to make what the text denotes whole, and no more.
-/

namespace Attest

/-- The value that a text denotes, nothing rounded, if all of it is a number. -/
def NumberLiteral.valueOf? (cs : List Char) : Option ℚ :=
  match Draft.readNumber cs with
  | .ok (l, []) => some l.exactValue
  | _ => none

namespace Number

variable (n : Number)

theorem reduced_decimal : n.decimal.Reduced := by
  cases n with
  | int n => exact .inl (Int.le_refl 0)
  | real x =>
      rw [decimal, DecimalStyle.decimal]
      split
      next => exact .inl (Int.le_refl 0)
      next hzero => exact .inr (Decimal.digits_shortest_mod_ne_zero (Bool.eq_false_iff.2 hzero))

/-- The digits that are counted in the text are those of the literal that it is. -/
theorem exists_literal_decimals : ∃ l : NumberLiteral, Draft.readNumber n.text = .ok (l, []) ∧ l.Denotes n.decimal ∧
    n.fractionDigits = l.decimals := by
  obtain ⟨l, -, hdenotes, -, htext⟩ := n.exists_literal
  refine ⟨l, ?_, hdenotes, ?_⟩
  · rw [htext, hdenotes.readNumber true]
  · cases n with
    | int n => exact hdenotes.decimals.symm
    | real x => rw [fractionDigits, htext, hdenotes.writtenDecimals_text hdenotes.power true]

/-- **The digits behind the point** are the fewest that make what the text of the number denotes whole. -/
theorem exists_value_isLeast : ∃ q, NumberLiteral.valueOf? n.text = some q ∧
    IsLeast {k : ℕ | ∃ m : ℤ, q * 10 ^ k = m} n.fractionDigits := by
  obtain ⟨l, hread, hdenotes, hdigits⟩ := n.exists_literal_decimals
  refine ⟨l.exactValue, ?_, ?_⟩
  · rw [NumberLiteral.valueOf?, hread]
  · rw [hdigits]
    exact hdenotes.isLeast_decimals n.reduced_decimal

end Number

/-- **Decimals are counted exactly.** Every number has as many decimals as it takes to make what its text denotes whole,
and the rule that bounds them accepts the numbers whose texts have no more of them than that, and nothing else. -/
theorem Rule.decimalPlaces_accepts_iff_text (now : Timestamp) (parent : Json) :
    (∀ n : Number, ∃ q k, NumberLiteral.valueOf? n.text = some q ∧ (Json.number n).fractionDigits? = some k ∧
      IsLeast {j : ℕ | ∃ m : ℤ, q * 10 ^ j = m} k) ∧
    ∀ (most : Nat) (v : Json), (decimalPlaces most).accepts now v parent = true ↔
      ∃ n q, v = .number n ∧ NumberLiteral.valueOf? n.text = some q ∧ ∃ k ≤ most, ∃ m : ℤ, q * 10 ^ k = m := by
  refine ⟨fun n => ?_, fun most v => ?_⟩
  · obtain ⟨q, hq, hleast⟩ := n.exists_value_isLeast
    exact ⟨q, n.fractionDigits, hq, rfl, hleast⟩
  · have haccepts : (decimalPlaces most).accepts now v parent = true ↔
        ∃ n, v = .number n ∧ n.fractionDigits ≤ most := by
      cases v <;> simp [accepts, Json.fractionDigits?, Json.number?]
    rw [haccepts]
    refine exists_congr fun n => ?_
    obtain ⟨q, hq, hleast⟩ := n.exists_value_isLeast
    constructor
    · rintro ⟨rfl, hle⟩
      exact ⟨q, rfl, hq, n.fractionDigits, hle, hleast.1⟩
    · rintro ⟨q', rfl, hq', k, hk, hwhole⟩
      obtain rfl := Option.some.inj (hq.symm.trans hq')
      exact ⟨rfl, (hleast.2 hwhole).trans hk⟩

end Attest

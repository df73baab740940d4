/-!
Binary floating-point numbers of 64 bits, by value and without the machine's own type. Every finite one
is a whole multiple of `2 ^ (-1074)`: `units` counts the multiples, so comparing two numbers is comparing
two counts, and rounding a fraction is choosing the nearest count that a significand of 53 bits can carry.
-/

namespace Attest

/-- A finite number: `mantissa * 2 ^ shift` units with a sign. A number has exactly one form,
so equality of forms is equality of sign and magnitude. -/
structure Binary64 where
  negative : Bool
  mantissa : Nat
  shift : Nat
  mantissa_lt : mantissa < Nat.pow 2 53
  shift_le : shift ≤ 2045
  normal : Nat.pow 2 52 ≤ mantissa ∨ shift = 0
  deriving DecidableEq, Repr

/-- A number that arithmetic may also have pushed past the finite ones. -/
inductive Double
  | finite (x : Binary64)
  | infinite (negative : Bool)
  | nan
  deriving DecidableEq, Repr

namespace Binary64

/-- The weight of a unit: one is `2 ^ 1074` units. -/
def unitBits : Nat := 1074

def zero (negative : Bool) : Binary64 :=
  ⟨negative, 0, 0, by decide, by decide, .inr rfl⟩

instance : Inhabited Binary64 := ⟨zero false⟩

/-- The magnitude as a count of units. -/
def units (x : Binary64) : Nat :=
  x.mantissa * Nat.pow 2 x.shift

/-- The value as a signed count of units; both zeros count zero. -/
def signedUnits (x : Binary64) : Int :=
  if x.negative then -(x.units : Int) else x.units

def isZero (x : Binary64) : Bool :=
  x.mantissa == 0

/-- Negation, of zeros too. -/
def neg (x : Binary64) : Binary64 :=
  { x with negative := !x.negative }

/-- The quotient to the nearest integer, a tie to the even one. -/
def roundDiv (num den : Nat) : Nat :=
  let quotient := num / den
  let twice := 2 * (num % den)
  if twice > den ∨ (twice = den ∧ quotient % 2 = 1) then quotient + 1 else quotient

/-- The number with this form, the next power of two when the significand has just grown past its bits,
and infinity beyond the largest exponent. -/
def ofForm (negative : Bool) (mantissa shift : Nat) : Double :=
  if h : mantissa < Nat.pow 2 53 ∧ shift ≤ 2045 ∧ (Nat.pow 2 52 ≤ mantissa ∨ shift = 0) then
    .finite ⟨negative, mantissa, shift, h.1, h.2.1, h.2.2⟩
  else if h : mantissa = Nat.pow 2 53 ∧ shift + 1 ≤ 2045 then
    .finite ⟨negative, Nat.pow 2 52, shift + 1, by decide, h.2, .inl (Nat.le_refl _)⟩
  else
    .infinite negative

/-- The number nearest to the fraction `num / den`, a tie to the even significand. -/
def round (negative : Bool) (num den : Nat) : Double :=
  let scaled := num * Nat.pow 2 unitBits
  let shift := Nat.log2 (scaled / den) - 52
  ofForm negative (roundDiv scaled (den * Nat.pow 2 shift)) shift

def ofNat (n : Nat) : Double :=
  round false n 1

/-- The product of two finite numbers, rounded once. -/
def mul (x y : Binary64) : Double :=
  round (x.negative != y.negative) (x.units * y.units) (Nat.pow 2 (2 * unitBits))

/-- The quotient of two finite numbers, rounded once; the divisor is not zero. -/
def div (x y : Binary64) : Double :=
  round (x.negative != y.negative) x.units y.units

/-- The integer a number equals, when it equals one. -/
def toInt? (x : Binary64) : Option Int :=
  if x.units % Nat.pow 2 unitBits = 0 then
    some (if x.negative then -((x.units / Nat.pow 2 unitBits : Nat) : Int) else (x.units / Nat.pow 2 unitBits : Nat))
  else
    none

end Binary64

namespace Double

/-- The number nearest to an integer. -/
def ofInt (n : Int) : Double :=
  if n < 0 then Binary64.round true n.natAbs 1 else Binary64.ofNat n.natAbs

/-- The order of two numbers, unless one of them is not a number. -/
def compare? : Double → Double → Option Ordering
  | .nan, _ | _, .nan => none
  | .finite x, .finite y => some (compare x.signedUnits y.signedUnits)
  | .infinite s, .infinite t => some (compare t s)
  | .infinite s, .finite _ => some (if s then .lt else .gt)
  | .finite _, .infinite t => some (if t then .gt else .lt)

/-- Numerical equality: the two zeros are equal, and not-a-number equals nothing. -/
def equal (x y : Double) : Bool :=
  compare? x y == some .eq

def less (x y : Double) : Bool :=
  compare? x y == some .lt

def atMost (x y : Double) : Bool :=
  less x y || equal x y

def isNaN : Double → Bool
  | .nan => true
  | _ => false

end Double

end Attest

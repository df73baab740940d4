import Attest.Number.Decimal

/-!
The numbers of documents. A literal without point and exponent that fits a 64-bit word is an integer;
every other literal is a binary number. The two kinds never equal each other as document values, though
`toDouble` compares them by magnitude.
-/

namespace Attest

inductive Number
  | int (value : Int)
  | real (value : Binary64)
  deriving DecidableEq, Repr

namespace Number

/-- Equality of document values: the two zeros of the binary kind are one value, and an integer never
equals a binary number. -/
def same : Number → Number → Bool
  | .int m, .int n => m == n
  | .real x, .real y => x.signedUnits == y.signedUnits
  | _, _ => false

/-- The number rounded to a binary one. -/
def toDouble : Number → Double
  | .int n => Double.ofInt n
  | .real x => .finite x

/-- Equality by magnitude after rounding to binary. -/
def alike (a b : Number) : Bool :=
  a.toDouble.equal b.toDouble

def text : Number → List Char
  | .int n => if n < 0 then '-' :: Nat.toDigits 10 n.natAbs else Nat.toDigits 10 n.natAbs
  | .real x => DecimalStyle.document.text x

/-- The number as a signed 64-bit integer: integers of that range, and whole binary numbers below
`2 ^ 53` in magnitude, where every integer is still exact. -/
def toInteger? : Number → Option Int
  | .int n => if -Int.pow 2 63 ≤ n ∧ n < Int.pow 2 63 then some n else none
  | .real x => x.toInt?.filter fun n => n.natAbs < Nat.pow 2 53

end Number

end Attest

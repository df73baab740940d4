import Attest.Number.Literal
import Attest.Text.Split

/-!
How many digits a number has behind the point. They are counted in its text.
-/

namespace Attest

namespace NumberLiteral

/-- The signed 64-bit integer that a text is, if it is one. -/
def signedWord? (cs : List Char) : Option Int :=
  let (minus, digits) := splitSign cs
  let n : Int := if minus then -(natOfDigits digits : Int) else natOfDigits digits
  if !digits.isEmpty && digits.all Char.isDigit && -Int.pow 2 63 ≤ n && n < Int.pow 2 63 then some n else none

/-- The digits behind the point of a text without an exponent, less the zeros at their end. -/
def trimmedFraction (mantissa : List Char) : List Char :=
  match splitAtFirst (· == '.') mantissa with
  | some (_, fraction) => (fraction.reverse.dropWhile (· == '0')).reverse
  | none => []

/-- The digits behind the point in the text of a number, zeros at the end not counted, when the exponent has moved
the point. -/
def writtenDecimals (text : List Char) : Nat :=
  let (mantissa, exponent) := match splitAtFirst (fun c => c == 'e' || c == 'E') text with
    | some (mantissa, exponent) => (mantissa, (signedWord? exponent).getD 0)
    | none => (text, 0)
  (((trimmedFraction mantissa).length : Int) - exponent).toNat

end NumberLiteral

/-- The digits behind the point in the text of the number; none for an integer. -/
def Number.fractionDigits : Number → Nat
  | .int _ => 0
  | .real x => NumberLiteral.writtenDecimals (Number.real x).text

end Attest

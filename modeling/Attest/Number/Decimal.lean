import Attest.Number.Binary64

/-!
Decimal text of binary numbers. `Decimal.shortest` picks the fewest significant digits that read back as
the number, and of two such decimals the nearer one; a `DecimalStyle` says which of two that are equally near, and
how the digits are laid out.
-/

namespace Attest

/-- The value `digits * 10 ^ exponent`. -/
structure Decimal where
  digits : Nat
  exponent : Int
  deriving DecidableEq, Repr

namespace Decimal

/-- The binary number nearest to a decimal. -/
def nearest (negative : Bool) (d : Decimal) : Double :=
  if d.exponent < 0 then
    Binary64.round negative d.digits (Nat.pow 10 (-d.exponent).toNat)
  else
    Binary64.round negative (d.digits * Nat.pow 10 d.exponent.toNat) 1

def digitCount (n : Nat) : Nat :=
  (Nat.toDigits 10 n).length

/-- The power of ten of the first significant digit of a positive fraction. -/
def leadingPlace (num den : Nat) : Int :=
  if den ≤ num then
    (digitCount (num / den) : Int) - 1
  else
    -(digitCount ((den - 1) / num) : Int)

/-- The fraction on the decimal grid of spacing `10 ^ place`, as a quotient to be rounded. -/
def onGrid (num den : Nat) (place : Int) : Nat × Nat :=
  if place < 0 then (num * Nat.pow 10 (-place).toNat, den) else (num, den * Nat.pow 10 place.toNat)

/-- The quotient to the nearest integer, a tie upwards or to the even one. -/
def nearestDigits (tiesUp : Bool) (num den : Nat) : Nat :=
  if tiesUp then
    if den ≤ 2 * (num % den) then num / den + 1 else num / den
  else
    Binary64.roundDiv num den

/-- The decimal of `count` significant digits that reads back as `x`, if there is one: of the two grid
points around `x` the nearer, and on a tie the upper one or the one with an even last digit. -/
def shortestOf (tiesUp : Bool) (x : Binary64) (count : Nat) : Option Decimal :=
  let unit := Nat.pow 2 Binary64.unitBits
  let place := leadingPlace x.units unit - (count : Int) + 1
  let (num, den) := onGrid x.units unit place
  let below : Decimal := ⟨num / den, place⟩
  let above : Decimal := ⟨num / den + 1, place⟩
  let nearer : Decimal := ⟨nearestDigits tiesUp num den, place⟩
  let readsBack (d : Decimal) : Bool := nearest x.negative d == .finite x
  if readsBack below && readsBack above then some nearer
  else if readsBack below then some below
  else if readsBack above then some above
  else none

/-- All the digits of a number, which always read back. -/
def exact (x : Binary64) : Decimal :=
  ⟨x.units * Nat.pow 5 Binary64.unitBits, -(Binary64.unitBits : Int)⟩

/-- Drops trailing zeros of the significand, at most `fuel` of them. -/
def trimZeros : Nat → Decimal → Decimal
  | 0, d => d
  | fuel + 1, d =>
      if d.digits ≠ 0 ∧ d.digits % 10 = 0 then trimZeros fuel ⟨d.digits / 10, d.exponent + 1⟩ else d

/-- The shortest decimal that reads back as a nonzero number. Seventeen digits always suffice. -/
def shortest (tiesUp : Bool) (x : Binary64) : Decimal :=
  let found := ((List.range 17).findSome? fun i => shortestOf tiesUp x (i + 1)).getD (exact x)
  trimZeros (digitCount found.digits) found

end Decimal

/-- How a number is written: which of two decimals is taken that are equally short and equally near, for which powers
of the first digit the point is written in place instead of an exponent, whether a whole number keeps a fraction of
zero, and whether an exponent that is not negative has a sign. -/
structure DecimalStyle where
  tiesUp : Bool
  positional : Int → Bool
  wholeFraction : Bool
  signedExponent : Bool

namespace DecimalStyle

/-- Numbers in documents: an exponent below `10 ^ (-5)` and from `10 ^ 16` on, and always a fraction or an
exponent, so that no number of this kind reads as an integer. -/
def document : DecimalStyle :=
  ⟨false, fun place => -5 ≤ place && place ≤ 15, true, true⟩

/-- Numbers in messages: never an exponent, no fraction on whole numbers. -/
def message : DecimalStyle :=
  ⟨true, fun _ => true, false, true⟩

/-- Numbers in dumps: an exponent below `10 ^ (-4)` and from `10 ^ 16` on, and a fraction on whole numbers. -/
def dump : DecimalStyle :=
  ⟨true, fun place => -4 ≤ place && place ≤ 15, true, false⟩

def zeros (n : Int) : List Char :=
  List.replicate n.toNat '0'

/-- Digits with the point in place; the first digit has the power `place`. -/
def positionalText (style : DecimalStyle) (digits : List Char) (place : Int) : List Char :=
  let whole := place + 1
  if whole ≤ 0 then
    ['0', '.'] ++ zeros (-whole) ++ digits
  else if (digits.length : Int) ≤ whole then
    digits ++ zeros (whole - digits.length) ++ (if style.wholeFraction then ['.', '0'] else [])
  else
    digits.take whole.toNat ++ '.' :: digits.drop whole.toNat

/-- One digit before the point and an exponent. -/
def exponentText (style : DecimalStyle) (digits : List Char) (place : Int) : List Char :=
  let sign := if place < 0 then ['-'] else if style.signedExponent then ['+'] else []
  digits.take 1 ++ (if digits.length ≤ 1 then [] else '.' :: digits.drop 1) ++
    'e' :: sign ++ Nat.toDigits 10 place.natAbs

def text (style : DecimalStyle) (x : Binary64) : List Char :=
  let sign := if x.negative then ['-'] else []
  if x.isZero then
    sign ++ positionalText style ['0'] 0
  else
    let d := Decimal.shortest style.tiesUp x
    let digits := Nat.toDigits 10 d.digits
    let place := d.exponent + digits.length - 1
    sign ++ if style.positional place then positionalText style digits place else exponentText style digits place

end DecimalStyle

namespace Double

/-- The number in a style, words for what is no finite number. -/
def styled (style : DecimalStyle) : Double → String
  | .finite x => String.ofList (style.text x)
  | .infinite negative => if negative then "-inf" else "inf"
  | .nan => "NaN"

/-- The number as messages show it. -/
def text (x : Double) : String :=
  x.styled .message

/-- The number as messages show it, except that a small whole number, a zero of either sign among them, is
shown as an integer. -/
def briefText (x : Double) : String :=
  match x with
  | .finite y =>
      match y.toInt? with
      | some n => if n.natAbs < Nat.pow 10 15 then toString n else x.text
      | none => x.text
  | _ => x.text

end Double

end Attest

import Attest.Number.Basic

/-!
The value of a number literal. The significand keeps the leading digits that fit a 64-bit word, is rounded
to binary, and is then scaled by a power of ten that was itself rounded; the result is therefore not always
the number nearest to the literal.
-/

namespace Attest

/-- A number literal cut into its parts; digits are in reading order. -/
structure NumberLiteral where
  negative : Bool
  whole : List Char
  fraction : Option (List Char)
  /-- The sign of the exponent, true for a minus, and its digits. -/
  exponent : Option (Bool × List Char)
  deriving DecidableEq, Repr

namespace NumberLiteral

def digitValue (c : Char) : Nat :=
  c.toNat - '0'.toNat

/-- The natural number that decimal digits denote. -/
def natOfDigits (digits : List Char) : Nat :=
  digits.foldl (fun n c => 10 * n + digitValue c) 0

/-- The sign that digits may have before them, true for a minus, and what follows it. -/
def splitSign (cs : List Char) : Bool × List Char :=
  match cs with
  | '-' :: rest => (true, rest)
  | '+' :: rest => (false, rest)
  | _ => (false, cs)

/-- The largest number of a 64-bit word. -/
def wordMax : Nat := Nat.pow 2 64 - 1

/-- Reads digits onto `n` while the result fits a word; also gives how many digits were left over. -/
def takeFitting : Nat → List Char → Nat × Nat
  | n, [] => (n, 0)
  | n, c :: rest =>
      let next := 10 * n + digitValue c
      if next ≤ wordMax then takeFitting next rest else (n, rest.length + 1)

/-- The power of ten as a binary number; exact up to `10 ^ 22`. -/
def tenPower (n : Nat) : Binary64 :=
  match Binary64.ofNat (Nat.pow 10 n) with
  | .finite x => x
  | _ => .zero false

def quotient (x : Binary64) (n : Nat) : Binary64 :=
  match x.div (tenPower n) with
  | .finite y => y
  | _ => .zero false

/-- A significand times a power of ten, or nothing when the product is too large to be finite. Negative
powers past `10 ^ (-308)` are applied in two divisions, and past `10 ^ (-616)` nothing is left. -/
def scale (significand : Nat) (exponent : Int) : Option Binary64 :=
  match Binary64.ofNat significand with
  | .finite x =>
      if significand = 0 ∨ exponent < -616 then some (.zero false)
      else if exponent < -308 then some (quotient (quotient x 308) (-(exponent + 308)).toNat)
      else if exponent < 0 then some (quotient x (-exponent).toNat)
      else if exponent ≤ 308 then
        match x.mul (tenPower exponent.toNat) with
        | .finite y => some y
        | _ => none
      else none
  | _ => none

/-- The number a literal denotes, or nothing when it is too large to be finite. -/
def value? (l : NumberLiteral) : Option Number :=
  let (significand, dropped) := takeFitting 0 l.whole
  if l.fraction.isNone && l.exponent.isNone && dropped == 0 &&
      (!l.negative || (0 < significand && significand ≤ Nat.pow 2 63)) then
    some (.int (if l.negative then -(significand : Int) else significand))
  else
    let fraction := l.fraction.getD []
    let (digits, unread) := takeFitting significand fraction
    let written : Int := match l.exponent with
      | none => 0
      | some (minus, ds) => if minus then -(natOfDigits ds : Int) else natOfDigits ds
    let exponent := (dropped : Int) - ((fraction.length - unread : Nat) : Int) + written
    (scale digits exponent).map fun x => .real (if l.negative then x.neg else x)

end NumberLiteral

end Attest

/-!
Punycode: a label in ASCII that stands for one beyond it. The plain characters of the label come first, up to the
last dash; the letters and digits behind it say which other characters are to be inserted, and where.
-/

namespace Attest.Punycode

def digitValue? (c : Char) : Option Nat :=
  if 'a' ≤ c ∧ c ≤ 'z' then some (c.toNat - 'a'.toNat)
  else if '0' ≤ c ∧ c ≤ '9' then some (c.toNat - '0'.toNat + 26)
  else none

/-- The least value of a digit at a place that is not the last one of its number. -/
def threshold (place bias : Nat) : Nat :=
  if place ≤ bias then 1 else if bias + 26 ≤ place then 26 else place - bias

/-- Divides by 35 until at most 455 is left; the second number grows by 36 each time. -/
def shrink (delta grown : Nat) : Nat × Nat :=
  if 455 < delta then shrink (delta / 35) (grown + 36) else (delta, grown)
termination_by delta
decreasing_by exact Nat.div_lt_self (by omega) (by omega)

/-- The bias after a number `delta` that was the first or a later one, for a text of that length. -/
def adapt (delta length : Nat) (first : Bool) : Nat :=
  let delta := if first then delta / 700 else delta / 2
  let (delta, grown) := shrink (delta + delta / length) 0
  grown + 36 * delta / (delta + 38)

/-- Reads a number with growing weights of its digits and adds it to `sum`; weights and sums have 32 bits. -/
def readNumber (bias : Nat) : Nat → Nat → Nat → List Char → Option (Nat × List Char)
  | _, _, _, [] => none
  | sum, weight, place, c :: cs => do
      let digit ← digitValue? c
      let sum := sum + digit * weight
      guard (sum < Nat.pow 2 32)
      let t := threshold place bias
      if digit < t then pure (sum, cs)
      else
        guard (weight * (36 - t) < Nat.pow 2 32)
        readNumber bias sum (weight * (36 - t)) (place + 36) cs

/-- What remains to be inserted: the last character that was, its number, the place behind it, and the bias. -/
structure State where
  text : List Char
  code : Nat
  place : Nat
  bias : Nat

/-- Inserts characters as long as there are digits; every round takes at least one. -/
def insert : Nat → State → List Char → Option (List Char)
  | _, s, [] => some s.text
  | 0, _, _ => none
  | fuel + 1, s, cs => do
      let (sum, rest) ← readNumber s.bias s.place 1 36 cs
      let length := s.text.length + 1
      let bias := adapt (sum - s.place) length (s.place = 0)
      let code := s.code + sum / length
      let place := sum % length
      guard (Nat.isValidChar code)
      insert fuel ⟨s.text.take place ++ Char.ofNat code :: s.text.drop place, code, place + 1, bias⟩ rest

/-- The parts of a label before and behind its last dash; without a dash there is nothing before. -/
def splitAtLastDash (cs : List Char) : List Char × List Char :=
  if cs.contains '-' then
    let behind := cs.reverse.takeWhile (· != '-')
    ((cs.reverse.drop (behind.length + 1)).reverse, behind.reverse)
  else ([], cs)

/-- The label that a text in small letters stands for. -/
def decode (cs : List Char) : Option (List Char) :=
  let (plain, digits) := splitAtLastDash cs
  insert (digits.length + 1) ⟨plain, 128, 0, 72⟩ digits

end Attest.Punycode

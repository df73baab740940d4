import Attest.Rule.Basic

/-!
Which parameters make sense. A rule whose parameters do not is never asked of a value, for no value would satisfy it
or its text could not be told.
-/

namespace Attest

inductive ParameterFault
  | lengthsReversed (least most : Nat)
  | boundsReversed (least greatest : Double)
  | notANumber
  | zeroDivisor
  | noChoices
  | depthOutOfRange (depth : Nat)
  | unnamedPredicate
  deriving DecidableEq, Repr

namespace Rule

/-- How deep a JSON text in a string may be allowed to be nested. -/
def maxJsonDepth : Nat := 1024

def parameterFault? : Rule → Option ParameterFault
  | length least most => if most < least then some (.lengthsReversed least most) else none
  | range least greatest =>
      if least.isNaN || greatest.isNaN then some .notANumber
      else if greatest.less least then some (.boundsReversed least greatest)
      else none
  | min bound | max bound => if bound.isNaN then some .notANumber else none
  | divisibleBy divisor => if divisor = 0 then some .zeroDivisor else none
  | oneOf choices => if choices.isEmpty then some .noChoices else none
  | jsonString depth => if 1 ≤ depth ∧ depth ≤ maxJsonDepth then none else some (.depthOutOfRange depth)
  | custom predicate => if predicate.isEmpty then some .unnamedPredicate else none
  | _ => none

end Rule

def ParameterFault.message : ParameterFault → String
  | .lengthsReversed least most => s!"min ({least}) is greater than max ({most})"
  | .boundsReversed least greatest => s!"min ({least.text}) is greater than max ({greatest.text})"
  | .notANumber => "bound is not a number"
  | .zeroDivisor => "divisor must not be zero"
  | .noChoices => "at least one allowed value is required"
  | .depthOutOfRange depth => s!"max_depth must be between 1 and {Rule.maxJsonDepth}, got {depth}"
  | .unnamedPredicate => "predicate name is empty"

end Attest

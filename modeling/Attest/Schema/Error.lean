import Attest.Pattern.Hazard
import Attest.Rule.Parameters

/-!
Why schemas have no plans.
-/

namespace Attest

/-- What is wrong with a field. -/
inductive FieldFault
  | duplicate
  | checkpointOutOfRange (position steps : Nat)
  | unknownNested (target : String)
  | parameters (rule : String) (fault : ParameterFault)
  | pattern (pattern : String) (rejection : Pattern.Rejection)
  | unresolved (predicate : String)
  deriving DecidableEq, Repr

inductive SchemaError
  | duplicate (schema : String)
  | inField (schema field : String) (fault : FieldFault)
  deriving DecidableEq, Repr

namespace SchemaError

/-- The name of the schema that is at fault. -/
def schema : SchemaError → String
  | .duplicate schema | .inField schema _ _ => schema

def message : SchemaError → String
  | .duplicate schema => s!"duplicate schema `{schema}`"
  | .inField schema field fault =>
      match fault with
      | .duplicate => s!"{schema}: duplicate field `{field}`"
      | .checkpointOutOfRange position steps =>
          s!"{schema}.{field}: checkpoint {position} is out of range (chain has {steps} steps)"
      | .unknownNested target => s!"{schema}.{field}: nested schema `{target}` is not defined"
      | .parameters rule fault => s!"{schema}.{field}: invalid parameters for `{rule}`: {fault.message}"
      | .pattern pattern rejection =>
          let verdict := if rejection = .malformed then "invalid" else "unsafe"
          s!"{schema}.{field}: {verdict} pattern `{pattern}`: {rejection.message}"
      | .unresolved predicate => s!"{schema}.{field}: unresolved custom predicate `{predicate}`"

end SchemaError

end Attest

import Attest.Outcome
import Attest.Predicate

/-!
Why a call comes to no report. A value that breaks its rules is never a reason.
-/

namespace Attest

inductive Abort
  | unknownSchema (name : String)
  | predicateFailed (predicate path : String) (failure : PredicateFailure)
  | tooDeep (path : String) (limit : Nat)
  /-- The value could not be written as JSON. -/
  | unwritable
  deriving DecidableEq, Repr

def Abort.message : Abort → String
  | .unknownSchema name => s!"no compiled plan for schema `{name}`"
  | .predicateFailed predicate path _ => s!"custom predicate `{predicate}` failed at `{path}`"
  | .tooDeep path limit => s!"nesting at `{path}` exceeds the maximum depth of {limit}"
  | .unwritable => "failed to snapshot value for validation"

/-- The outcome for a value whose check came to this end. -/
def Outcome.ofResult (value : α) (result : Except Abort Report) : Except Abort (Outcome α) :=
  result.map (Outcome.ofReport value)

/-- Why a value is not handed back: what is wrong with it, or why that is not known. -/
inductive Refusal
  | invalid (report : Report)
  | aborted (abort : Abort)
  deriving DecidableEq, Repr

namespace Refusal

/-- The value of a success; all else is refused. -/
def unwrap : Except Abort (Outcome α) → Except Refusal α
  | .ok (.success a) => .ok a
  | .ok (.failure report) => .error (.invalid report)
  | .error abort => .error (.aborted abort)

def message : Refusal → String
  | .invalid report => "validation failed: " ++ report.text
  | .aborted abort => abort.message

def isInvalid : Refusal → Bool
  | .invalid _ => true
  | .aborted _ => false

def report? : Refusal → Option Report
  | .invalid report => some report
  | .aborted _ => none

end Refusal

end Attest

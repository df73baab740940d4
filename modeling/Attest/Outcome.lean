import Attest.Report

/-!
The result of a validation that came to its end: the value itself, or the report of what is wrong with it.
-/

namespace Attest

inductive Outcome (α : Type)
  | success (value : α)
  | failure (report : Report)

namespace Outcome

/-- A value with an empty report succeeds. -/
def ofReport (value : α) (report : Report) : Outcome α :=
  if report.isEmpty then .success value else .failure report

def isSuccess : Outcome α → Bool
  | .success _ => true
  | .failure _ => false

def value? : Outcome α → Option α
  | .success a => some a
  | .failure _ => none

def report? : Outcome α → Option Report
  | .success _ => none
  | .failure r => some r

def map (f : α → β) : Outcome α → Outcome β
  | .success a => .success (f a)
  | .failure r => .failure r

def bind (o : Outcome α) (f : α → Outcome β) : Outcome β :=
  match o with
  | .success a => f a
  | .failure r => .failure r

def fold (onSuccess : α → β) (onFailure : Report → β) : Outcome α → β
  | .success a => onSuccess a
  | .failure r => onFailure r

def getOrElse (f : Report → α) (o : Outcome α) : α :=
  o.fold id f

def toExcept : Outcome α → Except Report α
  | .success a => .ok a
  | .failure r => .error r

end Outcome

end Attest

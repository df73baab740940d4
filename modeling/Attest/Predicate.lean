import Attest.Context

/-!
Custom predicates: checks that a rule only names. A predicate may give control back before it is done, and it may
fail to reach a verdict at all, which is not the same as finding the value invalid.
-/

namespace Attest

inductive Verdict
  | valid
  /-- A detail takes the place of the message of the rule. -/
  | invalid (detail : Option String)
  deriving DecidableEq, Repr

namespace Verdict

def ofBool : Bool → Verdict
  | true => .valid
  | false => .invalid none

def isValid : Verdict → Bool
  | .valid => true
  | .invalid _ => false

end Verdict

/-- Why a predicate reached no verdict. -/
structure PredicateFailure where
  message : String
  cause : Option String
  deriving DecidableEq, Repr

/-- A check of a value in its parent. -/
abbrev Predicate := Json → Json → Context → Activity (Except PredicateFailure Verdict)

/-- A check that needs neither time nor context, and does not fail. -/
def Predicate.ofCheck (check : Json → Json → Bool) : Predicate := fun value parent _ =>
  .done (.ok (.ofBool (check value parent)))

/-- The predicates that rules may name. -/
structure Registry where
  entries : List (String × Predicate)

namespace Registry

def empty : Registry :=
  ⟨[]⟩

/-- Registers a predicate; an earlier one of that name is gone. -/
def register (r : Registry) (name : String) (predicate : Predicate) : Registry :=
  ⟨(name, predicate) :: r.entries.filter fun (n, _) => n ≠ name⟩

def resolve? (r : Registry) (name : String) : Option Predicate :=
  r.entries.lookup name

def contains (r : Registry) (name : String) : Bool :=
  (r.resolve? name).isSome

def size (r : Registry) : Nat :=
  r.entries.length

def isEmpty (r : Registry) : Bool :=
  r.entries.isEmpty

/-- The names in order. -/
def names (r : Registry) : List String :=
  (r.entries.map (·.1)).mergeSort fun a b => a ≤ b

end Registry

end Attest

import Attest.Pattern.Vetting
import Attest.Predicate
import Attest.Schema.Basic

/-!
Plans: schemas in which every pattern has been vetted and every predicate found, so that nothing is left to go wrong
with them when values are checked.
-/

namespace Attest

/-- How a step comes to its verdict. -/
inductive Matcher
  | builtIn
  | pattern (regex : Regex)
  | custom (predicate : Predicate)

/-- A step with the means to come to its verdict and with what its message is made of. A key of its own is explicit;
without one it goes by the name of its rule. -/
structure PlannedStep where
  rule : Rule
  matcher : Matcher
  messageKey : String
  explicitMessage : Bool
  arguments : List String
  arguments_eq : arguments = rule.arguments
  messageKey_eq : explicitMessage = false → messageKey = rule.name

namespace PlannedStep

def ofStep (s : Step) (matcher : Matcher) : PlannedStep where
  rule := s.rule
  matcher := matcher
  messageKey := s.messageKey
  explicitMessage := s.message.isSome
  arguments := s.rule.arguments
  arguments_eq := rfl
  messageKey_eq h := by rw [Step.messageKey, Option.not_isSome_iff_eq_none.1 (Bool.eq_false_iff.1 h), Option.getD_none]

/-- The name of the predicate, or that of the rule if it is built in. -/
def predicateName (s : PlannedStep) : String :=
  match s.rule with
  | .custom name => name
  | rule => rule.name

end PlannedStep

structure PlannedField where
  name : String
  nullable : Bool
  steps : List PlannedStep
  checkpoints : Checkpoints
  nested : Option Nesting

namespace PlannedField

/-- Whether a chain that has failed stops before the step at a position. -/
def stopsAt (f : PlannedField) (position : Nat) : Bool :=
  f.checkpoints.contains position

end PlannedField

/-- What is doubtful about a pattern that was accepted. -/
structure PatternWarning where
  field : String
  pattern : String
  warning : Pattern.Warning
  deriving DecidableEq, Repr

/-- The executable form of a schema, with the warnings of all its patterns in the order of their steps. -/
structure Plan where
  name : String
  fields : List PlannedField
  warnings : List PatternWarning

namespace Plan

def field? (p : Plan) (name : String) : Option PlannedField :=
  p.fields.find? (·.name = name)

def stepCount (p : Plan) : Nat :=
  (p.fields.map (·.steps.length)).foldr (· + ·) 0

end Plan

/-- The plans of a list of schemas, in the order of the list. -/
structure PlanSet where
  plans : List Plan

namespace PlanSet

def get? (ps : PlanSet) (name : String) : Option Plan :=
  ps.plans.find? (·.name = name)

def contains (ps : PlanSet) (name : String) : Bool :=
  (ps.get? name).isSome

def size (ps : PlanSet) : Nat :=
  ps.plans.length

def isEmpty (ps : PlanSet) : Bool :=
  ps.plans.isEmpty

/-- The plans in the order of their names. -/
def sorted (ps : PlanSet) : List Plan :=
  ps.plans.mergeSort fun p q => p.name ≤ q.name

end PlanSet

end Attest

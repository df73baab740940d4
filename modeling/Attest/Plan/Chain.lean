import Attest.Abort
import Attest.Path
import Attest.Plan.Basic
import Attest.Rule.Check

/-!
The chain of a field: its steps in their order, each with a message when the value fails it. Null is asked only
about presence. After a failure the chain goes on to the next checkpoint and stops there.
-/

namespace Attest

namespace PlannedStep

def check (s : PlannedStep) (value parent : Json) (ctx : Context) :
    Activity (Except PredicateFailure Verdict) :=
  match s.matcher with
  | .builtIn => .done (.ok (.ofBool (s.rule.accepts ctx.now value parent)))
  | .pattern regex => .done (.ok (.ofBool (value.isString regex.matchesIn)))
  | .custom predicate => predicate value parent ctx

/-- The message of a failure. The key that a step brings along goes before the detail of a predicate, and that
before the key of the rule. -/
def message (s : PlannedStep) (detail : Option String) (ctx : Context) : Activity String :=
  match detail, s.explicitMessage with
  | some text, false => .done text
  | _, _ => ctx.message s.messageKey s.arguments

/-- Whether the step is asked of a value at all. -/
def concerns (s : PlannedStep) (value : Json) : Bool :=
  !value.isNull || s.rule.isPresence

end PlannedStep

namespace PlannedField

/-- The messages of the steps from a position on, `failed` telling whether there was a message before. -/
def chainFrom (f : PlannedField) (ctx : Context) (value parent : Json) (path : Path) :
    Nat → Bool → List PlannedStep → Activity (Except Abort (List String))
  | _, _, [] => .done (.ok [])
  | position, failed, s :: rest =>
      if failed && f.stopsAt position then .done (.ok [])
      else if s.concerns value then do
        match ← s.check value parent ctx with
        | .error failure => pure (.error (.predicateFailed s.predicateName path.text failure))
        | .ok .valid => f.chainFrom ctx value parent path (position + 1) failed rest
        | .ok (.invalid detail) => do
            let message ← s.message detail ctx
            let messages ← f.chainFrom ctx value parent path (position + 1) true rest
            pure (messages.map (message :: ·))
      else f.chainFrom ctx value parent path (position + 1) failed rest

/-- All messages about the value of a field itself, first that it must not be null. -/
def chain (f : PlannedField) (ctx : Context) (value parent : Json) (path : Path) :
    Activity (Except Abort (List String)) :=
  if value.isNull && !f.nullable then do
    let message ← ctx.message "not_null" []
    let messages ← f.chainFrom ctx value parent path 0 true f.steps
    pure (messages.map (message :: ·))
  else f.chainFrom ctx value parent path 0 false f.steps

end PlannedField

end Attest

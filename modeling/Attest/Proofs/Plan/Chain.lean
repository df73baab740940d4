import Attest.Plan.Chain

/-!
What the chain of a field comes to, said without walking it. A step is asked when it concerns the value and no
checkpoint up to it has a failure before it; the first step asked that reaches no verdict ends the call, and
otherwise the chain leaves one message for each step asked that finds the value invalid, after the message about
a null that should not be there.

The chain carries a position and a flag along. The flag is `failsBefore` at the position, which is the invariant
that turns the walk into the list `asked`.
-/

namespace Attest

namespace PlannedStep

variable (s : PlannedStep) (ctx : Context) (value parent : Json) (path : Path)

/-- What the step comes to, however often it pauses. -/
def verdict : Except PredicateFailure Verdict :=
  (s.check value parent ctx).answer

/-- The message that the step leaves when the value fails it. -/
def complaint? : Option String :=
  match s.verdict ctx value parent with
  | .ok (.invalid detail) => some (s.message detail ctx).answer
  | _ => none

/-- What becomes of the call when the step reaches no verdict. -/
def abort? : Option Abort :=
  match s.verdict ctx value parent with
  | .error failure => some (.predicateFailed s.predicateName path.text failure)
  | .ok _ => none

end PlannedStep

namespace PlannedField

variable (f : PlannedField) (ctx : Context) (value parent : Json) (path : Path)

/-- A null that should not be there. -/
def isMissing : Bool :=
  value.isNull && !f.nullable

/-- The message about a null that should not be there. -/
def missing : List String :=
  if f.isMissing value then [(ctx.message "not_null" []).answer] else []

/-- Whether there is a failure before a position: of the null itself, or of a step. -/
def failsBefore (position : Nat) : Bool :=
  f.isMissing value ||
    (f.steps.take position).any fun s => s.concerns value && (s.complaint? ctx value parent).isSome

/-- Whether there is a checkpoint at a position and a failure before it. -/
def haltsAt (position : Nat) : Bool :=
  f.failsBefore ctx value parent position && f.stopsAt position

/-- Of steps that start at a position, those before the first halt. -/
def walked (position : Nat) (steps : List PlannedStep) : List PlannedStep :=
  ((steps.zipIdx position).takeWhile fun (_, p) => !f.haltsAt ctx value parent p).map (·.1)

/-- The steps that are asked about the value. -/
def asked : List PlannedStep :=
  (f.walked ctx value parent 0 f.steps).filter (·.concerns value)

/-- All messages about the value of the field itself. -/
def complaints : List String :=
  f.missing ctx value ++ (f.asked ctx value parent).filterMap (·.complaint? ctx value parent)

/-- What becomes of the call: the first step asked that reaches no verdict. -/
def abort? : Option Abort :=
  (f.asked ctx value parent).findSome? (·.abort? ctx value parent path)

/-! ### The walk -/

/-- What asking steps one after the other comes to. -/
def answers (steps : List PlannedStep) : Except Abort (List String) :=
  match steps.findSome? (·.abort? ctx value parent path) with
  | some abort => .error abort
  | none => .ok (steps.filterMap (·.complaint? ctx value parent))

theorem walked_cons (position : Nat) (s : PlannedStep) (rest : List PlannedStep) :
    f.walked ctx value parent position (s :: rest) =
      if f.haltsAt ctx value parent position then []
      else s :: f.walked ctx value parent (position + 1) rest := by
  rw [walked, List.zipIdx_cons, List.takeWhile_cons]
  by_cases h : f.haltsAt ctx value parent position
  · simp [h]
  · simp [h, walked]

theorem failsBefore_succ {before rest : List PlannedStep} {s : PlannedStep} (hsteps : f.steps = before ++ s :: rest) :
    f.failsBefore ctx value parent (before.length + 1) =
      (f.failsBefore ctx value parent before.length ||
        (s.concerns value && (s.complaint? ctx value parent).isSome)) := by
  have htake : f.steps.take (before.length + 1) = f.steps.take before.length ++ [s] := by
    rw [hsteps, List.take_append, List.take_append, List.take_of_length_le (Nat.le_succ _)]
    simp
  rw [failsBefore, htake, List.any_append, ← Bool.or_assoc]
  simp [failsBefore]

theorem answers_cons_of_error {s : PlannedStep} {failure : PredicateFailure}
    (hverdict : s.verdict ctx value parent = .error failure) (steps : List PlannedStep) :
    answers ctx value parent path (s :: steps) = .error (.predicateFailed s.predicateName path.text failure) := by
  simp [answers, PlannedStep.abort?, hverdict]

theorem answers_cons_of_valid {s : PlannedStep} (hverdict : s.verdict ctx value parent = .ok .valid)
    (steps : List PlannedStep) :
    answers ctx value parent path (s :: steps) = answers ctx value parent path steps := by
  simp [answers, PlannedStep.abort?, PlannedStep.complaint?, hverdict]

theorem answers_cons_of_invalid {s : PlannedStep} {detail : Option String}
    (hverdict : s.verdict ctx value parent = .ok (.invalid detail)) (steps : List PlannedStep) :
    answers ctx value parent path (s :: steps) =
      (answers ctx value parent path steps).map ((s.message detail ctx).answer :: ·) := by
  have habort : s.abort? ctx value parent path = none := by simp [PlannedStep.abort?, hverdict]
  have hcomplaint : s.complaint? ctx value parent = some (s.message detail ctx).answer := by
    simp [PlannedStep.complaint?, hverdict]
  rw [answers, answers, List.findSome?_cons, habort, List.filterMap_cons, hcomplaint]
  cases steps.findSome? (·.abort? ctx value parent path) <;> rfl

theorem answer_chainFrom {before rest : List PlannedStep} (hsteps : f.steps = before ++ rest) :
    (f.chainFrom ctx value parent path before.length (f.failsBefore ctx value parent before.length) rest).answer =
      answers ctx value parent path
        ((f.walked ctx value parent before.length rest).filter (·.concerns value)) := by
  induction rest generalizing before with
  | nil => rfl
  | cons s rest ih =>
      have hnext : f.steps = (before ++ [s]) ++ rest := by rw [hsteps, List.append_assoc, List.singleton_append]
      have ih := ih hnext
      rw [List.length_append, List.length_singleton, failsBefore_succ f ctx value parent hsteps] at ih
      rw [chainFrom, walked_cons, haltsAt]
      by_cases hhalt : f.failsBefore ctx value parent before.length && f.stopsAt before.length
      · simp only [if_pos hhalt]
        rfl
      · simp only [if_neg hhalt]
        by_cases hconcerns : s.concerns value
        · rw [if_pos hconcerns, List.filter_cons, if_pos hconcerns, Activity.answer_andThen]
          rw [hconcerns, Bool.true_and] at ih
          -- The verdict of the step decides how the chain goes on.
          cases hverdict : (s.check value parent ctx).answer with
          | error failure =>
              rw [answers_cons_of_error ctx value parent path hverdict]
              rfl
          | ok verdict =>
              cases verdict with
              | valid =>
                  have hnone : s.complaint? ctx value parent = none := by
                    simp [PlannedStep.complaint?, PlannedStep.verdict, hverdict]
                  rw [hnone, Option.isSome_none, Bool.or_false] at ih
                  rw [answers_cons_of_valid ctx value parent path hverdict]
                  exact ih
              | invalid detail =>
                  have hsome : s.complaint? ctx value parent = some (s.message detail ctx).answer := by
                    simp [PlannedStep.complaint?, PlannedStep.verdict, hverdict]
                  rw [hsome, Option.isSome_some, Bool.or_true] at ih
                  rw [answers_cons_of_invalid ctx value parent path hverdict, ← ih]
                  simp
        · rw [if_neg hconcerns, List.filter_cons, if_neg hconcerns]
          simp only [hconcerns, Bool.false_and, Bool.or_false] at ih
          exact ih

/-- The chain of a field: the first step asked that reaches no verdict, or all messages of those asked. -/
theorem answer_chain : (f.chain ctx value parent path).answer =
    match f.abort? ctx value parent path with
    | some abort => .error abort
    | none => .ok (f.complaints ctx value parent) := by
  have hwalk := f.answer_chainFrom ctx value parent path (show f.steps = [] ++ f.steps from rfl)
  have hstart : f.failsBefore ctx value parent 0 = f.isMissing value := by simp [failsBefore]
  rw [List.length_nil, hstart] at hwalk
  change _ = answers ctx value parent path (f.asked ctx value parent) at hwalk
  rw [chain, complaints, missing, abort?]
  change (if f.isMissing value then _ else _ : Activity (Except Abort (List String))).answer = _
  by_cases hmissing : f.isMissing value
  · rw [hmissing] at hwalk
    rw [if_pos hmissing, if_pos hmissing, Activity.answer_andThen, Activity.answer_andThen, hwalk, answers]
    cases (f.asked ctx value parent).findSome? (·.abort? ctx value parent path) <;> rfl
  · rw [eq_false_of_ne_true hmissing] at hwalk
    rw [if_neg hmissing, if_neg hmissing, hwalk, answers]
    rfl

end PlannedField

end Attest

import Attest.Task.Basic

/-!
What a task comes to when its parts are done one after the other, and how much work is left in it.
-/

namespace Attest.Task

mutual

/-- A bound on the polls that a task needs if no other is in its way. -/
def work : Task → Nat
  | .reported _ => 0
  | .aborting _ => 1
  | .telling _ message => message.pauses + 1
  | .field _ _ chain _ nested => chain.pauses + 1 + work nested
  | .nesting _ nested => work nested
  | .all tasks => workAll tasks + 1
termination_by structural t => t

def workAll : List Task → Nat
  | [] => 0
  | t :: ts => work t + workAll ts
termination_by structural ts => ts

end

mutual

/-- What a task comes to when its parts are done one after the other. -/
def result : Task → Except Abort Report
  | .reported report => .ok report
  | .aborting abort => .error abort
  | .telling path message => .ok (Report.empty.push path message.answer)
  | .field path _ chain policy nested =>
      match chain.answer with
      | .error abort => .error abort
      | .ok messages =>
          let before := Report.empty.extend path messages
          if policy.allows (!messages.isEmpty) then (result nested).map before.merge else .ok before
  | .nesting before nested => (result nested).map before.merge
  | .all tasks => (results tasks).map fun reports => reports.foldl Report.merge .empty
termination_by structural t => t

def results : List Task → Except Abort (List Report)
  | [] => .ok []
  | t :: ts => do pure ((← result t) :: (← results ts))
termination_by structural ts => ts

end

end Attest.Task

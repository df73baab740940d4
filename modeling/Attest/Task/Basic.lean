import Attest.Abort
import Attest.Activity
import Attest.Gate
import Attest.Settings

/-!
Tasks: what is left to do of a call. The fields of an object are tasks next to each other. Each waits for a permit,
runs its chain with it, gives it back, and then goes on with what is nested in it.
-/

namespace Attest

/-- Where a field stands at the gate. -/
inductive Stage
  | arriving
  | queued (ticket : Nat)
  | holding
  deriving DecidableEq, Repr

inductive Task
  | reported (report : Report)
  | aborting (abort : Abort)
  /-- A single message. -/
  | telling (path : String) (message : Activity String)
  /-- A field whose chain has not ended. -/
  | field (path : String) (stage : Stage) (chain : Activity (Except Abort (List String)))
      (policy : NestedPolicy) (nested : Task)
  /-- A field that goes on with what is nested in it. -/
  | nesting (before : Report) (nested : Task)
  | all (tasks : List Task)

namespace Stage

/-- Goes as far as the gate lets it. -/
def advance : Stage → Gate → Stage × Gate
  | .arriving, g =>
      match g.enter? with
      | some g => (.holding, g)
      | none => (.queued g.join.1, g.join.2)
  | .queued ticket, g => if g.isCalled ticket then (.holding, g.answer ticket) else (.queued ticket, g)
  | .holding, g => (.holding, g)

/-- Goes away from the gate. -/
def drop : Stage → Gate → Gate
  | .arriving, g => g
  | .queued ticket, g => g.leave ticket
  | .holding, g => g.release

end Stage

end Attest

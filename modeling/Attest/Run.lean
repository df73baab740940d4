import Attest.Task.Poll
import Attest.Task.Result

/-!
Calls in rounds. A round is one poll of a whole call, and a call that has not ended may be polled again or be given
up. A call that is polled as often as it has work left, and has its dispatcher for itself, ends.
-/

namespace Attest

inductive Progress
  | running (task : Task)
  | ended (result : Except Abort Report)

/-- A call with the gate of its dispatcher and the notes that it has left. -/
structure Run where
  progress : Progress
  gate : Gate
  notes : List String

namespace Run

def start (task : Task) (gate : Gate) : Run :=
  ⟨.running task, gate, []⟩

/-- One round; nothing happens to a call that has ended. -/
def poll (r : Run) : Run :=
  match r.progress with
  | .ended _ => r
  | .running task =>
      let turn := task.poll r.gate
      let progress := match turn.result with
        | .error abort => .ended (.error abort)
        | .ok (.reported report) => .ended (.ok report)
        | .ok task => .running task
      ⟨progress, turn.gate, r.notes ++ turn.notes⟩

/-- At most so many rounds. -/
def polls : Nat → Run → Run
  | 0, r => r
  | n + 1, r =>
      match r.progress with
      | .ended _ => r
      | .running _ => polls n r.poll

/-- All the rounds that a call needs when no other call is in its way. -/
def complete (r : Run) : Run :=
  match r.progress with
  | .ended _ => r
  | .running task => polls (task.work + 1) r

/-- The gate after the call was given up. -/
def drop (r : Run) : Gate :=
  match r.progress with
  | .ended _ => r.gate
  | .running task => task.drop r.gate

def result? (r : Run) : Option (Except Abort Report) :=
  match r.progress with
  | .ended result => some result
  | .running _ => none

end Run

end Attest

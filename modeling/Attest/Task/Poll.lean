import Attest.Task.Basic

/-!
Polling tasks. A task is polled until it has its report; a poll takes every part of it as far as it can go. The
first part that aborts takes all others with it, and what they held goes back to the gate.
-/

namespace Attest

/-- What a poll leaves behind. -/
structure Turn (α : Type) where
  gate : Gate
  notes : List String
  result : Except Abort α

namespace Turn

def map (f : α → β) (t : Turn α) : Turn β :=
  { t with result := t.result.map f }

/-- The turn with notes that were made before. -/
def after (notes : List String) (t : Turn α) : Turn α :=
  { t with notes := notes ++ t.notes }

end Turn

namespace Task

mutual

/-- Gives back all permits and tickets of a task. -/
def drop : Task → Gate → Gate
  | .field _ stage _ _ _, g => stage.drop g
  | .nesting _ nested, g => drop nested g
  | .all tasks, g => dropAll tasks g
  | _, g => g
termination_by structural t => t

def dropAll : List Task → Gate → Gate
  | [], g => g
  | t :: ts, g => dropAll ts (drop t g)
termination_by structural ts => ts

end

/-- A field with the report of its own chain. -/
def joined (before : Report) : Task → Task
  | .reported report => .reported (before.merge report)
  | nested => .nesting before nested

/-- The reports of tasks that all have one. -/
def reports? : List Task → Option (List Report)
  | [] => some []
  | .reported r :: rest => (reports? rest).map (r :: ·)
  | _ :: _ => none

/-- Tasks next to each other, which have a report when each of them has. -/
def gathered (tasks : List Task) : Task :=
  match reports? tasks with
  | some reports => .reported (reports.foldl Report.merge .empty)
  | none => .all tasks

mutual

/-- Takes every part of a task as far as it can go. -/
def poll : Task → Gate → Turn Task
  | .reported report, g => ⟨g, [], .ok (.reported report)⟩
  | .aborting abort, g => ⟨g, [], .error abort⟩
  | .telling path message, g =>
      match message.advance with
      | (notes, .ended text) => ⟨g, notes, .ok (.reported (Report.empty.push path text))⟩
      | (notes, .paused rest) => ⟨g, notes, .ok (.telling path rest)⟩
  | .field path stage chain policy nested, g =>
      match stage.advance g with
      | (.holding, g) =>
          match chain.advance with
          | (notes, .ended (.error abort)) => ⟨g.release, notes, .error abort⟩
          | (notes, .ended (.ok messages)) =>
              let before := Report.empty.extend path messages
              if policy.allows (!messages.isEmpty) then
                ((poll nested g.release).map (joined before)).after notes
              else ⟨g.release, notes, .ok (.reported before)⟩
          | (notes, .paused rest) => ⟨g, notes, .ok (.field path .holding rest policy nested)⟩
      | (stage, g) => ⟨g, [], .ok (.field path stage chain policy nested)⟩
  | .nesting before nested, g => (poll nested g).map (joined before)
  | .all tasks, g => (pollAll tasks g).map gathered
termination_by structural t => t

def pollAll : List Task → Gate → Turn (List Task)
  | [], g => ⟨g, [], .ok []⟩
  | t :: ts, g =>
      match poll t g with
      | ⟨g, notes, .error abort⟩ => ⟨dropAll ts g, notes, .error abort⟩
      | ⟨g, notes, .ok t⟩ =>
          match pollAll ts g with
          | ⟨g, more, .error abort⟩ => ⟨drop t g, notes ++ more, .error abort⟩
          | ⟨g, more, .ok ts⟩ => ⟨g, notes ++ more, .ok (t :: ts)⟩
termination_by structural ts => ts

end

end Task

end Attest

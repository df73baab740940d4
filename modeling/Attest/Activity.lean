/-!
Work that may give control back before it has its answer. Predicates and message sources are written as
activities, so that what surrounds them decides when they go on; `note` leaves a line in the log of whoever
runs the activity.
-/

namespace Attest

inductive Activity (α : Type)
  | done (answer : α)
  | note (line : String) (rest : Activity α)
  | pause (rest : Activity α)

namespace Activity

def bind : Activity α → (α → Activity β) → Activity β
  | .done a, f => f a
  | .note line rest, f => .note line (rest.bind f)
  | .pause rest, f => .pause (rest.bind f)

instance : Monad Activity where
  pure := .done
  bind := bind

/-- The answer, however often the activity pauses. -/
def answer : Activity α → α
  | .done a => a
  | .note _ rest => rest.answer
  | .pause rest => rest.answer

/-- How many times the activity gives control back. -/
def pauses : Activity α → Nat
  | .done _ => 0
  | .note _ rest => rest.pauses
  | .pause rest => rest.pauses + 1

end Activity

/-- Where an activity stands when it gives control back. -/
inductive Halt (α : Type)
  | ended (answer : α)
  | paused (rest : Activity α)

namespace Activity

/-- Runs to the next pause or the end; the notes on the way in their order. -/
def advance : Activity α → List String × Halt α
  | .done a => ([], .ended a)
  | .note line rest => (line :: rest.advance.1, rest.advance.2)
  | .pause rest => ([], .paused rest)

@[simp] theorem answer_done (a : α) : (done a).answer = a := rfl

@[simp] theorem answer_pure (a : α) : (pure a : Activity α).answer = a := rfl

@[simp] theorem answer_bind (x : Activity α) (f : α → Activity β) :
    (x.bind f).answer = (f x.answer).answer := by
  induction x with
  | done a => rfl
  | note line rest ih => exact ih
  | pause rest ih => exact ih

@[simp] theorem answer_andThen (x : Activity α) (f : α → Activity β) :
    (x >>= f).answer = (f x.answer).answer :=
  answer_bind x f

end Activity

end Attest

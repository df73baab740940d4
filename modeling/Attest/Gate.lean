import Attest.Dispatcher

/-!
The state of a dispatcher. Who finds no free permit takes a ticket; a permit that comes back goes to the ticket that
has waited longest, and is kept for it until it is taken up.
-/

namespace Attest

structure Gate where
  /-- The permits that nobody has; nothing when there is no limit. -/
  free : Option Nat
  /-- The tickets that wait, the oldest first. -/
  waiting : List Nat
  /-- The tickets for which a permit is kept. -/
  called : List Nat
  nextTicket : Nat
  deriving DecidableEq, Repr

namespace Gate

/-- The gate of a dispatcher before anybody comes. -/
def ofDispatcher (d : Dispatcher) : Gate :=
  ⟨d.capacity, [], [], 0⟩

/-- Takes a free permit, if there is one. -/
def enter? (g : Gate) : Option Gate :=
  match g.free with
  | none => some g
  | some 0 => none
  | some (n + 1) => some { g with free := some n }

/-- Takes a ticket. -/
def join (g : Gate) : Nat × Gate :=
  (g.nextTicket, { g with waiting := g.waiting ++ [g.nextTicket], nextTicket := g.nextTicket + 1 })

def isCalled (g : Gate) (ticket : Nat) : Bool :=
  g.called.contains ticket

/-- Takes up the permit that is kept for a ticket. -/
def answer (g : Gate) (ticket : Nat) : Gate :=
  { g with called := g.called.erase ticket }

/-- Gives a permit back. -/
def release (g : Gate) : Gate :=
  match g.waiting with
  | ticket :: rest => { g with waiting := rest, called := ticket :: g.called }
  | [] => { g with free := g.free.map (· + 1) }

/-- Gives up a ticket, and the permit if one is kept for it. -/
def leave (g : Gate) (ticket : Nat) : Gate :=
  if g.isCalled ticket then (g.answer ticket).release
  else { g with waiting := g.waiting.erase ticket }

end Gate

end Attest

/-!
Dispatchers: how many chains may run at the same time. The permits of one dispatcher are shared by all calls that
were given it.
-/

namespace Attest

structure Dispatcher where
  capacity : Option Nat
  deriving DecidableEq, Repr

namespace Dispatcher

def unbounded : Dispatcher :=
  ⟨none⟩

/-- The most permits that can be counted. -/
def maxPermits : Nat := Nat.pow 2 61 - 1

/-- At least one chain runs, however few are asked for; nothing counts more than `maxPermits`. -/
def bounded? (permits : Nat) : Option Dispatcher :=
  if permits ≤ maxPermits then some ⟨some (Nat.max permits 1)⟩ else none

end Dispatcher

end Attest

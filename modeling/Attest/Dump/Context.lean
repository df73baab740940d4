import Attest.Dump.Rule
import Attest.Predicate

/-!
Contexts and what belongs to them as logs show them.
-/

namespace Attest

/-- A dispatcher with the number of permits that are free. -/
def Dispatcher.dump (d : Dispatcher) (available : Option Nat) : Dump :=
  .record "Dispatcher" [
    ("capacity", .ofOption .ofNat d.capacity),
    ("available", .ofOption .ofNat available)] false

def Clock.dump : Clock → Dump
  | .system _ => .word "SystemClock"
  | .fixed t => .tuple "FixedClock" [.word t.text]

/-- A context while none of the permits of its dispatcher is taken. -/
def Context.dump (c : Context) : Dump :=
  .record "ValidationContext" [
    ("locale", .tuple "Locale" [.quoted c.locale.tag]),
    ("dispatcher", c.dispatcher.dump c.dispatcher.capacity),
    ("clock", c.clock.dump),
    ("metadata", .map (c.metadata.map fun (key, v) => (key, v.dump)))] true

def Verdict.dump : Verdict → Dump
  | .valid => .word "Valid"
  | .invalid detail => .tuple "Invalid" [.ofOption .quoted detail]

def Registry.dump (r : Registry) : Dump :=
  .record "PredicateRegistry" [("predicates", .list (r.names.map .quoted))] false

end Attest

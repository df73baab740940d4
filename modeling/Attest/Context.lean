import Attest.Dispatcher
import Attest.Format.Timestamp
import Attest.Json.Basic
import Attest.Message.Resolver

/-!
Contexts: what a call is given besides the schema and the value. A context is never changed; the `with…` functions
derive another one from it. Time does not pass during the calls with one context.
-/

namespace Attest

/-- Where the present is read off: the clock of the system with its reading, or an instant that stands still. The clock
of the system is assumed to stand still, too, as long as the calls last that are compared with each other: a context has
one reading of it, however often and in whatever order the checks of a call ask for the present. -/
inductive Clock
  | system (reading : Timestamp)
  | fixed (instant : Timestamp)
  deriving DecidableEq, Repr

def Clock.now : Clock → Timestamp
  | .system t | .fixed t => t

structure Context where
  locale : Locale
  resolver : Resolver
  dispatcher : Dispatcher
  clock : Clock
  metadata : List (String × Json)

namespace Context

/-- English messages from the bundle and no metadata. -/
def standard (dispatcher : Dispatcher) (clock : Clock) : Context where
  locale := .default
  resolver := MessageBundle.standard.resolver
  dispatcher := dispatcher
  clock := clock
  metadata := []

def withLocale (c : Context) (locale : Locale) : Context :=
  { c with locale := locale }

def withResolver (c : Context) (resolver : Resolver) : Context :=
  { c with resolver := resolver }

def withDispatcher (c : Context) (dispatcher : Dispatcher) : Context :=
  { c with dispatcher := dispatcher }

def withClock (c : Context) (clock : Clock) : Context :=
  { c with clock := clock }

/-- One entry added or replaced; entries are kept in the order of their keys. -/
def withMetadata (c : Context) (key : String) (value : Json) : Context :=
  { c with metadata := Json.insertMember key value c.metadata }

def metadata? (c : Context) (key : String) : Option Json :=
  c.metadata.lookup key

def now (c : Context) : Timestamp :=
  c.clock.now

/-- The message of a key in the locale of the context. -/
def message (c : Context) (key : String) (args : List String) : Activity String :=
  c.resolver key args c.locale

end Context

end Attest

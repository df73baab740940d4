import Attest.Dispatcher
import Attest.Json.Decode
import Attest.Json.Text
import Attest.Pattern.Vetting

/-!
Settings of a validator, all of which may be left out of a document. How many chains run at once is up to the
machine when nothing is said.
-/

namespace Attest

/-- Whether the value of a field is looked into after the chain of the field has failed. -/
inductive NestedPolicy
  | always
  | skipOnLocalFailure
  deriving DecidableEq, Repr

namespace NestedPolicy

def allows (policy : NestedPolicy) (localFailed : Bool) : Bool :=
  match policy with
  | .always => true
  | .skipOnLocalFailure => !localFailed

def word : NestedPolicy → String
  | .always => "always"
  | .skipOnLocalFailure => "skip_on_local_failure"

def ofWord? : String → Option NestedPolicy
  | "always" => some .always
  | "skip_on_local_failure" => some .skipOnLocalFailure
  | _ => none

end NestedPolicy

structure Settings where
  maxConcurrency : Option Nat
  nestedPolicy : NestedPolicy
  maxDepth : Nat
  maxPatternLength : Nat
  deriving DecidableEq, Repr

/-- Settings that nothing can run with, by the first that is zero. -/
inductive SettingsDefect
  | noConcurrency
  | noDepth
  | noPatternLength
  deriving DecidableEq, Repr

namespace SettingsDefect

def message (d : SettingsDefect) : String :=
  "invalid engine config: " ++ match d with
    | .noConcurrency => "max_concurrency must be at least 1"
    | .noDepth => "max_depth must be at least 1"
    | .noPatternLength => "analyzer.max_pattern_len must be at least 1"

end SettingsDefect

/-- Why a text gives no settings. -/
inductive SettingsError
  | parse (fault : Fault)
  | invalid (defect : SettingsDefect)
  deriving DecidableEq, Repr

namespace SettingsError

def message : SettingsError → String
  | .parse _ => "failed to parse engine config"
  | .invalid d => d.message

end SettingsError

namespace Settings

/-- How many nested values are entered below each other when nothing is said. -/
def defaultDepth : Nat := 64

def standard : Settings where
  maxConcurrency := none
  nestedPolicy := .always
  maxDepth := defaultDepth
  maxPatternLength := Pattern.defaultLimit

def check (s : Settings) : Except SettingsDefect Unit :=
  if s.maxConcurrency = some 0 then .error .noConcurrency
  else if s.maxDepth = 0 then .error .noDepth
  else if s.maxPatternLength = 0 then .error .noPatternLength
  else .ok ()

/-- How many chains run at once on a machine that can run `parallelism` of them. -/
def concurrency (s : Settings) (parallelism : Nat) : Nat :=
  s.maxConcurrency.getD parallelism

def dispatcher? (s : Settings) (parallelism : Nat) : Option Dispatcher :=
  Dispatcher.bounded? (s.concurrency parallelism)

/-! ### As a document -/

structure Progress where
  concurrency : Option Nat
  policy : Option NestedPolicy
  depth : Option Nat
  patternLength : Option Nat

/-- The limits of pattern analysis, a record of their own. -/
def patternDecoder : Decoder Nat := fun depth d => do
  let length ← Decoder.record [("max_pattern_len", Decoder.once (Decoder.natural 64))] none depth d
  pure (length.getD standard.maxPatternLength)

def decoder : Decoder Settings := fun depth d => do
  let p ← Decoder.record [
    ("max_concurrency", fun (p : Progress) depth d => do
      pure { p with concurrency := ← Decoder.once (Decoder.natural 64) p.concurrency depth d }),
    ("nested_policy", fun (p : Progress) depth d => do
      pure { p with policy := ← Decoder.once (Decoder.word NestedPolicy.ofWord?) p.policy depth d }),
    ("max_depth", fun (p : Progress) depth d => do
      pure { p with depth := ← Decoder.once (Decoder.natural 64) p.depth depth d }),
    ("analyzer", fun (p : Progress) depth d => do
      pure { p with patternLength := ← Decoder.once patternDecoder p.patternLength depth d })]
    ⟨none, none, none, none⟩ depth d
  pure {
    maxConcurrency := p.concurrency
    nestedPolicy := p.policy.getD standard.nestedPolicy
    maxDepth := p.depth.getD standard.maxDepth
    maxPatternLength := p.patternLength.getD standard.maxPatternLength }

/-- Settings from a text, whether anything can run with them or not. -/
def ofDocument (text : String) : Except Fault Settings :=
  Decoder.decodeText decoder text

/-- Settings from a text that a validator can run with. -/
def read (text : String) : Except SettingsError Settings := do
  let s ← (ofDocument text).mapError .parse
  s.check.mapError .invalid
  pure s

/-- The settings as a JSON value, with all that was left out filled in. -/
def toJson (s : Settings) (parallelism : Nat) : Json :=
  .object [
    ("analyzer", .object [("max_pattern_len", .number (.int s.maxPatternLength))]),
    ("max_concurrency", .number (.int (s.concurrency parallelism))),
    ("max_depth", .number (.int s.maxDepth)),
    ("nested_policy", .string s.nestedPolicy.word)]

end Settings

end Attest

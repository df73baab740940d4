import Attest.Call
import Attest.Outcome
import Attest.Plan.Compilation
import Attest.Run

/-!
Validators: plans with the settings to run them by. A value is asked for its report, handed back or refused, or
handed back or thrown out; all of these run the same task.
-/

namespace Attest

/-- Types whose values are checked under a schema of their own. -/
class Validated (α : Type) where
  schema : String
  /-- The value as JSON, if it can be written. -/
  toJson? : α → Option Json

/-- Why there is no validator. -/
inductive StartError
  | schemas (error : SchemaError)
  | tooManyPermits (permits : Nat)
  deriving DecidableEq, Repr

structure Validator where
  plans : PlanSet
  settings : Settings
  dispatcher : Dispatcher

namespace Validator

/-- A validator on a machine that runs `parallelism` chains at once. -/
def ofPlans (plans : PlanSet) (settings : Settings) (parallelism : Nat) : Except StartError Validator :=
  match settings.dispatcher? parallelism with
  | some dispatcher => .ok ⟨plans, settings, dispatcher⟩
  | none => .error (.tooManyPermits (settings.concurrency parallelism))

def build (registry : Registry) (settings : Settings) (parallelism : Nat) (schemas : List Schema) :
    Except StartError Validator :=
  let compiler : Compiler := ⟨registry, settings.maxPatternLength⟩
  match (compiler.compile schemas).run PatternStore.empty with
  | (.ok plans, _) => ofPlans plans settings parallelism
  | (.error e, _) => .error (.schemas e)

/-- A context with the dispatcher of the validator. -/
def context (v : Validator) (clock : Clock) : Context :=
  .standard v.dispatcher clock

def call (v : Validator) (ctx : Context) : Call where
  plans := v.plans
  context := ctx
  policy := v.settings.nestedPolicy
  maxDepth := v.settings.maxDepth

/-- Checking a JSON value. -/
def task (v : Validator) (ctx : Context) (schema : String) (value : Json) : Task :=
  (v.call ctx).task schema value

/-- Checking a value under the schema of its type. -/
def typedTask [Validated α] (v : Validator) (ctx : Context) (a : α) : Task :=
  match Validated.toJson? a with
  | some value => v.task ctx (Validated.schema α) value
  | none => .aborting .unwritable

/-! ### Ways to be answered -/

/-- The report on a JSON value. -/
def report (v : Validator) (ctx : Context) (schema : String) (value : Json) : Except Abort Report :=
  (v.task ctx schema value).result

/-- A JSON value that keeps its rules, or its report. -/
def validateJson (v : Validator) (ctx : Context) (schema : String) (value : Json) :
    Except Abort (Outcome Json) :=
  Outcome.ofResult value (v.task ctx schema value).result

/-- A value that keeps the rules of its type, or its report. -/
def validate [Validated α] (v : Validator) (ctx : Context) (a : α) : Except Abort (Outcome α) :=
  Outcome.ofResult a (v.typedTask ctx a).result

/-- A value that keeps the rules of its type, and everything else as an error. -/
def validateOrThrow [Validated α] (v : Validator) (ctx : Context) (a : α) : Except Refusal α :=
  Refusal.unwrap (v.validate ctx a)

end Validator

end Attest

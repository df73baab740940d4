import Attest.Rule.Basic
import Attest.Schema.Checkpoints

/-!
Schemas: what is demanded of the fields of an object. A field has a chain of steps, may or may not be null, has
checkpoints at which a chain that has failed stops, and perhaps another schema for its value or for each element
of it.
-/

namespace Attest

/-- The schema that the value of a field is held to, or each element of the value. -/
structure Nesting where
  schema : String
  each : Bool
  deriving DecidableEq, Repr

structure Field where
  name : String
  nullable : Bool
  steps : List Step
  checkpoints : Checkpoints
  nested : Option Nesting

namespace Field

/-- A field of which nothing is demanded. -/
def named (name : String) : Field where
  name := name
  nullable := true
  steps := []
  checkpoints := .empty
  nested := none

/-! ### Declaring a field piece by piece -/

def withStep (f : Field) (step : Step) : Field :=
  { f with steps := f.steps ++ [step] }

def withRule (f : Field) (rule : Rule) : Field :=
  f.withStep ⟨rule, none⟩

def withCheckpointAt (f : Field) (position : Nat) : Field :=
  { f with checkpoints := f.checkpoints.insert position }

/-- A checkpoint after the steps so far. -/
def withCheckpoint (f : Field) : Field :=
  f.withCheckpointAt f.steps.length

def withNullable (f : Field) (nullable : Bool) : Field :=
  { f with nullable := nullable }

def withNested (f : Field) (schema : String) : Field :=
  { f with nested := some ⟨schema, false⟩ }

def withEach (f : Field) (schema : String) : Field :=
  { f with nested := some ⟨schema, true⟩ }

def same (f g : Field) : Bool :=
  f.name == g.name && f.nullable == g.nullable && sameSteps f.steps g.steps &&
    f.checkpoints == g.checkpoints && f.nested == g.nested
where
  sameSteps : List Step → List Step → Bool
    | [], [] => true
    | s :: ss, t :: ts => s.same t && sameSteps ss ts
    | _, _ => false

end Field

structure Schema where
  name : String
  fields : List Field

namespace Schema

def field? (s : Schema) (name : String) : Option Field :=
  s.fields.find? (·.name = name)

def same (s t : Schema) : Bool :=
  s.name == t.name && sameFields s.fields t.fields
where
  sameFields : List Field → List Field → Bool
    | [], [] => true
    | f :: fs, g :: gs => f.same g && sameFields fs gs
    | _, _ => false

end Schema

end Attest

import Attest.Plan.Basic
import Attest.Schema.Error

/-!
Compiling schemas into plans. Either all schemas of a list have plans or the first fault is told: names that
occur twice first, and then schema by schema and field by field in their order. In a field what concerns it as a
whole comes before its steps.
-/

namespace Attest

/-- Work with a store of patterns that is kept when it fails. -/
abbrev Compilation := ExceptT SchemaError (StateM PatternStore)

/-- What rules are compiled with. -/
structure Compiler where
  registry : Registry
  maxPatternLength : Nat

namespace Compiler

/-- Vets a pattern with the help of the store. -/
def vet (c : Compiler) (pattern : String) : StateM PatternStore (Except Pattern.Rejection Pattern.Vetted) :=
  fun store => store.vet c.maxPatternLength pattern

/-- The matcher of a rule whose parameters make sense, with what is doubtful about its pattern. -/
def matcher (c : Compiler) (fail : FieldFault → SchemaError) (field : String) (rule : Rule) :
    Compilation (Matcher × List PatternWarning) :=
  match rule with
  | .pattern source => do
      match ← c.vet source with
      | .ok vetted => pure (.pattern vetted.regex, (vetted.warning.map fun w => ⟨field, source, w⟩).toList)
      | .error rejection => throw (fail (.pattern source rejection))
  | .custom name =>
      match c.registry.resolve? name with
      | some predicate => pure (.custom predicate, [])
      | none => throw (fail (.unresolved name))
  | _ => pure (.builtIn, [])

def step (c : Compiler) (fail : FieldFault → SchemaError) (field : String) (s : Step) :
    Compilation (PlannedStep × List PatternWarning) := do
  if let some fault := s.rule.parameterFault? then
    throw (fail (.parameters s.rule.name fault))
  let found ← c.matcher fail field s.rule
  pure (.ofStep s found.1, found.2)

/-- What is wrong with a field as a whole, `known` being the schemas that it may refer to. -/
def shapeFault? (known : List String) (f : Field) : Option FieldFault :=
  match f.checkpoints.beyond? f.steps.length, f.nested with
  | some position, _ => some (.checkpointOutOfRange position f.steps.length)
  | none, some nested => if nested.schema ∈ known then none else some (.unknownNested nested.schema)
  | none, none => none

def field (c : Compiler) (schema : String) (known : List String) (f : Field) :
    Compilation (PlannedField × List PatternWarning) := do
  let fail := SchemaError.inField schema f.name
  if let some fault := shapeFault? known f then
    throw (fail fault)
  let steps ← f.steps.mapM (c.step fail f.name)
  pure (⟨f.name, f.nullable, steps.map (·.1), f.checkpoints, f.nested⟩, steps.flatMap (·.2))

/-- The fields of a schema, `seen` being the names of those before. -/
def fields (c : Compiler) (schema : String) (known : List String) :
    List String → List Field → Compilation (List PlannedField × List PatternWarning)
  | _, [] => pure ([], [])
  | seen, f :: rest => do
      if f.name ∈ seen then
        throw (.inField schema f.name .duplicate)
      let planned ← c.field schema known f
      let others ← c.fields schema known (f.name :: seen) rest
      pure (planned.1 :: others.1, planned.2 ++ others.2)

def schema (c : Compiler) (known : List String) (s : Schema) : Compilation Plan := do
  let planned ← c.fields s.name known [] s.fields
  pure ⟨s.name, planned.1, planned.2⟩

/-- The first name that occurs again in a list. -/
def repeated? : List String → List String → Option String
  | _, [] => none
  | seen, name :: rest => if name ∈ seen then some name else repeated? (name :: seen) rest

/-- The plans of schemas that may refer to each other. -/
def compile (c : Compiler) (schemas : List Schema) : Compilation PlanSet := do
  let names := schemas.map (·.name)
  if let some name := repeated? [] names then
    throw (.duplicate name)
  pure ⟨← schemas.mapM (c.schema names)⟩

/-- The plan of a schema that may refer to nothing but itself. -/
def compileOne (c : Compiler) (s : Schema) : Compilation Plan :=
  c.schema [s.name] s

end Compiler

end Attest

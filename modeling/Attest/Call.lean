import Attest.Plan.Chain
import Attest.Task.Basic

/-!
Calls: a value held to a schema. A call is laid out as a task that follows the value: the fields of an object, with
the tasks of what is nested in them, as deep as is allowed.
-/

namespace Attest

/-- What all tasks of a call share. -/
structure Call where
  plans : PlanSet
  context : Context
  policy : NestedPolicy
  maxDepth : Nat

namespace Call

def tell (c : Call) (key : String) (path : Path) : Task :=
  .telling path.text (c.context.message key [])

/-- A value that has to be an object, which is then entered. -/
def object (c : Call) (enter : Json → Path → Task) (value : Json) (path : Path) : Task :=
  match value with
  | .object _ => enter value path
  | _ => c.tell "expected_object" path

/-- What is nested in the value of a field, `enter` giving the tasks of an object. -/
def nested (c : Call) (enter : Plan → Json → Path → Task) (f : PlannedField) (value : Json) (path : Path) :
    Task :=
  match f.nested with
  | none => .reported .empty
  | some nesting =>
      if value.isNull then .reported .empty
      else
        match c.plans.get? nesting.schema with
        | none => .aborting (.unknownSchema nesting.schema)
        | some plan =>
            if nesting.each then
              match value with
              | .array items =>
                  .all ((items.zipIdx.filter fun (item, _) => !item.isNull).map fun (item, i) =>
                    c.object (enter plan) item (path.index i))
              | _ => c.tell "expected_array" path
            else c.object (enter plan) value path

/-- The fields of an object, which may be entered if `depth` is not used up. -/
def fields (c : Call) : Nat → Plan → Json → Path → Task
  | 0, _, _, path => .aborting (.tooDeep path.text c.maxDepth)
  | depth + 1, plan, object, path =>
      .all (plan.fields.map fun f =>
        let value := object.member f.name
        let path := path.field f.name
        .field path.text .arriving (f.chain c.context value object path) c.policy
          (c.nested (c.fields depth) f value path))

/-- The whole of a call. -/
def task (c : Call) (schema : String) (value : Json) : Task :=
  match c.plans.get? schema with
  | none => .aborting (.unknownSchema schema)
  | some plan => c.fields (c.maxDepth + 1) plan value .root

end Call

end Attest

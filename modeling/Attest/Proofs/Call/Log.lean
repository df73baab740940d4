import Attest.Call
import Attest.Proofs.Plan.Chain
import Attest.Proofs.Task.Result

/-!
The log of a call: its messages in the order of a walk through the value, depth first. Every field of an object
first has the messages about its own value, and then, if the value is looked into, those about what is nested in it.
The walk knows neither of tasks nor of reports nor of a limit on the depth; it ends because each value that it
enters is smaller than the one around it.

A call that comes to a report comes to that of its log.
-/

namespace Attest

namespace Json

def isObject : Json → Bool
  | .object _ => true
  | _ => false

theorem sizeOf_lt_of_lookup {key : String} {value : Json} {members : List (String × Json)}
    (h : members.lookup key = some value) : sizeOf value < sizeOf members := by
  obtain ⟨before, after, rfl, _⟩ := List.lookup_eq_some_iff.1 h
  have hmem : (key, value) ∈ before ++ (key, value) :: after := by simp
  have hentry := List.sizeOf_lt_of_mem hmem
  have hvalue : sizeOf value < sizeOf (key, value) := by
    simp only [Prod.mk.sizeOf_spec]
    omega
  exact Nat.lt_trans hvalue hentry

/-- A member that is there is smaller than its object. -/
theorem sizeOf_member_lt {value : Json} {key : String} (h : (value.member key).isNull = false) :
    sizeOf (value.member key) < sizeOf value := by
  cases value with
  | object members =>
      rw [member, member?] at h ⊢
      cases hlookup : members.lookup key with
      | none => simp [hlookup, isNull] at h
      | some v =>
          have hlt := sizeOf_lt_of_lookup hlookup
          simp only [Option.getD_some, object.sizeOf_spec]
          omega
  | null | bool _ | number _ | string _ | array _ => simp [member, member?, isNull] at h

end Json

/-- The values that a nested schema is held against and where they are; nothing for a value that should be a list. -/
def Nesting.parts? (n : Nesting) (value : Json) (path : Path) : Option (List (Json × Path)) :=
  if n.each then
    value.array?.map fun items =>
      (items.zipIdx.filter fun (item, _) => !item.isNull).map fun (item, i) => (item, path.index i)
  else some [(value, path)]

theorem Nesting.sizeOf_part_le {n : Nesting} {value part : Json} {path place : Path} {parts : List (Json × Path)}
    (hparts : n.parts? value path = some parts) (hpart : (part, place) ∈ parts) : sizeOf part ≤ sizeOf value := by
  rw [parts?] at hparts
  split at hparts
  · cases value with
    | array items =>
        obtain rfl := Option.some.inj hparts
        obtain ⟨⟨item, i⟩, hitem, heq⟩ := List.mem_map.1 hpart
        obtain ⟨rfl, _⟩ := Prod.mk.inj heq
        have hlt : sizeOf item < sizeOf items :=
          List.sizeOf_lt_of_mem (List.fst_mem_of_mem_zipIdx (List.mem_filter.1 hitem).1)
        simp only [Json.array.sizeOf_spec]
        omega
    | null | bool _ | number _ | string _ | object _ => simp [Json.array?] at hparts
  · obtain rfl := Option.some.inj hparts
    obtain ⟨rfl, _⟩ := Prod.mk.inj (List.mem_singleton.1 hpart)
    exact Nat.le_refl _

namespace Call

/-- The schema that the value of a field is looked into by, if it is looked into at all. -/
def inner? (c : Call) (f : PlannedField) (value object : Json) : Option (Nesting × Plan) := do
  let nesting ← f.nested
  let target ← c.plans.get? nesting.schema
  if !value.isNull && c.policy.allows (!(f.complaints c.context value object).isEmpty) then
    some (nesting, target)
  else none

theorem inner?_eq_some_iff {c : Call} {f : PlannedField} {value object : Json} {nesting : Nesting} {target : Plan} :
    c.inner? f value object = some (nesting, target) ↔
      f.nested = some nesting ∧ c.plans.get? nesting.schema = some target ∧ value.isNull = false ∧
        c.policy.allows (!(f.complaints c.context value object).isEmpty) = true := by
  simp only [inner?, Option.bind_eq_bind, Option.bind_eq_some_iff, Option.ite_none_right_eq_some,
    Bool.and_eq_true, Bool.not_eq_true', Option.some.injEq, Prod.mk.injEq]
  constructor
  · rintro ⟨_, hnested, _, htarget, ⟨hnull, hallows⟩, rfl, rfl⟩
    exact ⟨hnested, htarget, hnull, hallows⟩
  · rintro ⟨hnested, htarget, hnull, hallows⟩
    exact ⟨_, hnested, _, htarget, ⟨hnull, hallows⟩, rfl, rfl⟩

theorem inner?_eq_none_of_bare {c : Call} {f : PlannedField} {value object : Json}
    (h : f.nested = none ∨ value.isNull = true) : c.inner? f value object = none := by
  cases hinner : c.inner? f value object with
  | none => rfl
  | some inner =>
      obtain ⟨hnested, _, hthere, _⟩ := inner?_eq_some_iff.1 hinner
      rcases h with hnone | hnull
      · rw [hnone] at hnested
        cases hnested
      · rw [hnull] at hthere
        cases hthere

/-- A message that needs no arguments. -/
def notice (c : Call) (key : String) (path : Path) : Log :=
  [(path.text, (c.context.message key []).answer)]

/-- The messages of a call about an object, in the order of the walk. -/
def log (c : Call) (plan : Plan) (object : Json) (path : Path) : Log :=
  plan.fields.flatMap fun f =>
    Log.single (path.field f.name).text (f.complaints c.context (object.member f.name) object) ++
      match _hinner : c.inner? f (object.member f.name) object with
      | none => []
      | some (nesting, target) =>
          match _hparts : nesting.parts? (object.member f.name) (path.field f.name) with
          | none => c.notice "expected_array" (path.field f.name)
          | some parts => parts.attach.flatMap fun ⟨part, _⟩ =>
              if part.1.isObject then c.log target part.1 part.2 else c.notice "expected_object" part.2
termination_by sizeOf object
decreasing_by
  have hle := Nesting.sizeOf_part_le _hparts ‹_›
  have hlt := Json.sizeOf_member_lt (inner?_eq_some_iff.1 _hinner).2.2.1
  omega

/-- The messages about the values that a nested schema is held against. -/
def partsLog (c : Call) (nesting : Nesting) (target : Plan) (value : Json) (place : Path) : Log :=
  match nesting.parts? value place with
  | none => c.notice "expected_array" place
  | some parts => parts.flatMap fun part =>
      if part.1.isObject then c.log target part.1 part.2 else c.notice "expected_object" part.2

/-- The messages of a field: those about its value, then those about what is nested in it. -/
def fieldLog (c : Call) (object : Json) (path : Path) (f : PlannedField) : Log :=
  let value := object.member f.name
  Log.single (path.field f.name).text (f.complaints c.context value object) ++
    match c.inner? f value object with
    | none => []
    | some (nesting, target) => c.partsLog nesting target value (path.field f.name)

theorem flatMap_attach (parts : List (Json × Path)) (g : Json × Path → Log) :
    parts.attach.flatMap (fun part => g part.1) = parts.flatMap g := by
  rw [← List.flatMap_map, List.attach_map_subtype_val]

theorem log_eq (c : Call) (plan : Plan) (object : Json) (path : Path) :
    c.log plan object path = plan.fields.flatMap (c.fieldLog object path) := by
  rw [log]
  refine congrArg (plan.fields.flatMap ·) (funext fun f => ?_)
  simp only [fieldLog, partsLog]
  congr 1
  split
  next h => simp only [h]
  next nesting target h =>
    simp only [h]
    split
    next hparts => simp only [hparts]
    next parts hparts =>
      simp only [hparts]
      exact flatMap_attach parts fun part =>
        if part.1.isObject then c.log target part.1 part.2 else c.notice "expected_object" part.2

/-! ### Reports and logs -/

theorem result_tell (c : Call) (key : String) (path : Path) :
    (c.tell key path).result = .ok (Log.report (c.notice key path)) := by
  rw [tell, Task.result_telling, Report.push_eq_extend, ← Log.report_single]
  rfl

theorem object_eq (c : Call) (enter : Json → Path → Task) (value : Json) (path : Path) :
    c.object enter value path = if value.isObject then enter value path else c.tell "expected_object" path := by
  cases value <;> rfl

theorem nested_eq {c : Call} {f : PlannedField} {nesting : Nesting} {target : Plan} {value : Json}
    (hnested : f.nested = some nesting) (htarget : c.plans.get? nesting.schema = some target)
    (hnull : value.isNull = false) (enter : Plan → Json → Path → Task) (path : Path) :
    c.nested enter f value path =
      match nesting.parts? value path with
      | none => c.tell "expected_array" path
      | some parts =>
          if nesting.each then .all (parts.map fun part => c.object (enter target) part.1 part.2)
          else c.object (enter target) value path := by
  simp only [nested, hnested, hnull, htarget, Nesting.parts?]
  by_cases heach : nesting.each
  · simp only [heach, if_true]
    cases value with
    | array items => simp [Json.array?, List.map_map, Function.comp_def]
    | null | bool _ | number _ | string _ | object _ => rfl
  · simp [heach]

/-- What holds of the reports below an object carries over to the values that a nested schema is held against. -/
theorem report_nested {c : Call} {f : PlannedField} {nesting : Nesting} {target : Plan} {value : Json} {path : Path}
    {enter : Plan → Json → Path → Task} {report : Report}
    (henter : ∀ object place r, (enter target object place).result = .ok r → r = Log.report (c.log target object place))
    (hnested : f.nested = some nesting) (htarget : c.plans.get? nesting.schema = some target)
    (hnull : value.isNull = false) (h : (c.nested enter f value path).result = .ok report) :
    report = Log.report (c.partsLog nesting target value path) := by
  -- One value: an object that is entered, or the one message that it is none.
  have hobject (part : Json × Path) (r : Report) (hr : (c.object (enter target) part.1 part.2).result = .ok r) :
      r = Log.report (if part.1.isObject then c.log target part.1 part.2 else c.notice "expected_object" part.2) := by
    rw [object_eq] at hr
    split at hr
    next hobject =>
      rw [if_pos hobject]
      exact henter _ _ _ hr
    next hobject =>
      rw [if_neg hobject]
      rw [result_tell] at hr
      exact (Except.ok.inj hr).symm
  rw [nested_eq hnested htarget hnull] at h
  rw [partsLog]
  cases hparts : nesting.parts? value path with
  | none =>
      simp only [hparts, result_tell] at h
      exact (Except.ok.inj h).symm
  | some parts =>
      simp only [hparts] at h
      by_cases heach : nesting.each
      · rw [if_pos heach] at h
        exact Task.report_all_of_logs (fun part _ => hobject part) h
      · rw [if_neg heach] at h
        obtain rfl : [(value, path)] = parts := by simpa [Nesting.parts?, heach] using hparts
        simp only [List.flatMap_singleton]
        exact hobject (value, path) report h

/-- Where a nested task is come to, either there is nothing to look into or there is a schema to do it by. -/
theorem result_nested_cases {c : Call} {f : PlannedField} {value object : Json} {path : Path}
    {enter : Plan → Json → Path → Task} {report : Report}
    (hallows : c.policy.allows (!(f.complaints c.context value object).isEmpty) = true)
    (h : (c.nested enter f value path).result = .ok report) :
    ((f.nested = none ∨ value.isNull = true) ∧ report = .empty) ∨
      ∃ nesting target, c.inner? f value object = some (nesting, target) := by
  cases hnested : f.nested with
  | none =>
      rw [nested, hnested] at h
      exact .inl ⟨.inl rfl, (Except.ok.inj h).symm⟩
  | some nesting =>
      by_cases hnull : value.isNull
      · simp only [nested, hnested, hnull, if_true, Task.result_reported] at h
        exact .inl ⟨.inr hnull, (Except.ok.inj h).symm⟩
      · cases htarget : c.plans.get? nesting.schema with
        | none => simp [nested, hnested, hnull, htarget] at h
        | some target =>
            exact .inr ⟨nesting, target, inner?_eq_some_iff.2 ⟨hnested, htarget, by simpa using hnull, hallows⟩⟩

/-- What a field with a report has come to: no step of it aborts, and its report is that of its own messages, with
the report of what is nested in it if the policy lets the walk go on. -/
theorem result_field_cases {c : Call} {f : PlannedField} {value object : Json} {path : Path} {stage : Stage}
    {nested : Task} {report : Report}
    (h : (Task.field path.text stage (f.chain c.context value object path) c.policy nested).result = .ok report) :
    f.abort? c.context value object path = none ∧
      (c.policy.allows (!(f.complaints c.context value object).isEmpty) = false ∧
          report = Report.empty.extend path.text (f.complaints c.context value object) ∨
        c.policy.allows (!(f.complaints c.context value object).isEmpty) = true ∧
          ∃ inner, nested.result = .ok inner ∧
            report = (Report.empty.extend path.text (f.complaints c.context value object)).merge inner) := by
  have hchain := f.answer_chain c.context value object path
  cases habort : f.abort? c.context value object path with
  | some abort =>
      rw [habort] at hchain
      rw [Task.result_field_of_error hchain] at h
      cases h
  | none =>
      rw [habort] at hchain
      rw [Task.result_field_of_ok hchain] at h
      refine ⟨rfl, ?_⟩
      cases hallows : c.policy.allows (!(f.complaints c.context value object).isEmpty) with
      | false =>
          rw [hallows, if_neg Bool.false_ne_true] at h
          exact .inl ⟨rfl, (Except.ok.inj h).symm⟩
      | true =>
          rw [hallows, if_pos rfl] at h
          cases hnested : nested.result with
          | error abort => simp [hnested, Except.map] at h
          | ok inner =>
              rw [hnested] at h
              exact .inr ⟨rfl, inner, rfl, (Except.ok.inj h).symm⟩

/-- A call that comes to a report on an object comes to that of its log. -/
theorem report_fields {c : Call} {depth : Nat} {plan : Plan} {object : Json} {path : Path} {report : Report}
    (h : (c.fields depth plan object path).result = .ok report) : report = Log.report (c.log plan object path) := by
  induction depth generalizing plan object path report with
  | zero => simp [fields] at h
  | succ depth ih =>
      rw [log_eq]
      refine Task.report_all_of_logs (fun f _ r hr => ?_) h
      rw [fieldLog, Log.report_append, Log.report_single]
      obtain ⟨-, ⟨hallows, rfl⟩ | ⟨hallows, inner, hnested, rfl⟩⟩ := result_field_cases hr
      · -- The policy keeps the walk out of the value, and so out of the log.
        have hnone : c.inner? f (object.member f.name) object = none := by
          cases hinner : c.inner? f (object.member f.name) object with
          | none => rfl
          | some inner =>
              have hallowed := (inner?_eq_some_iff.1 hinner).2.2.2
              rw [hallows] at hallowed
              cases hallowed
        rw [hnone]
        rfl
      · rcases result_nested_cases hallows hnested with ⟨hbare, rfl⟩ | ⟨nesting, target, hsome⟩
        · rw [inner?_eq_none_of_bare hbare]
          rfl
        · obtain ⟨hfield, htarget, hnull, _⟩ := inner?_eq_some_iff.1 hsome
          rw [hsome, report_nested (fun _ _ _ => ih) hfield htarget hnull hnested]

end Call

end Attest

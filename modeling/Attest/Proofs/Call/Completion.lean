import Attest.Proofs.Call.Satisfaction

/-!
Which calls come to a report, said of the value alone: every step that is asked comes to a verdict, every schema that
a value is looked into by is there, and no object is deeper than is allowed.

Nothing of this speaks of places, of messages or of the order of the walk. So a call that comes to a report does so at
any other place too, with more depth, and under a policy by which less is looked into.
-/

namespace Attest

theorem PlanSet.mem_of_get? {plans : PlanSet} {name : String} {plan : Plan} (h : plans.get? name = some plan) :
    plan ∈ plans.plans :=
  List.mem_of_find?_eq_some h

namespace PlannedField

/-- Every step that is asked comes to a verdict. -/
def Decides (f : PlannedField) (ctx : Context) (value parent : Json) : Prop :=
  ∀ s ∈ f.asked ctx value parent, ∃ verdict, s.verdict ctx value parent = .ok verdict

theorem abort?_eq_none_iff {f : PlannedField} {ctx : Context} {value parent : Json} {path : Path} :
    f.abort? ctx value parent path = none ↔ f.Decides ctx value parent := by
  rw [abort?, List.findSome?_eq_none_iff]
  refine forall₂_congr fun s _ => ?_
  cases h : s.verdict ctx value parent <;> simp [PlannedStep.abort?, h]

end PlannedField

namespace Nesting

variable {n : Nesting} {value : Json} {path : Path}

/-- The values that a nested schema is held against, wherever they are. -/
def contents (n : Nesting) (value : Json) : List Json :=
  if n.each then (value.array?.getD []).filter fun item => !item.isNull else [value]

theorem contents_eq {parts : List (Json × Path)} (h : n.parts? value path = some parts) :
    n.contents value = parts.map (·.1) := by
  rw [parts?] at h
  rw [contents]
  by_cases heach : n.each
  · rw [if_pos heach] at h ⊢
    obtain ⟨items, hitems, rfl⟩ := Option.map_eq_some_iff.1 h
    have hfilter := List.filter_map (p := fun item : Json => !item.isNull) (f := Prod.fst) (l := items.zipIdx)
    rw [List.zipIdx_map_fst] at hfilter
    rw [hitems, Option.getD_some, hfilter, List.map_map]
    rfl
  · rw [if_neg heach] at h ⊢
    obtain rfl := Option.some.inj h
    rfl

theorem contents_eq_nil (h : n.parts? value path = none) : n.contents value = [] := by
  rw [parts?] at h
  rw [contents]
  by_cases heach : n.each
  · rw [if_pos heach, Option.map_eq_none_iff] at h
    rw [if_pos heach, h]
    rfl
  · rw [if_neg heach] at h
    cases h

/-- What holds of each value that a nested schema is held against, said with the places or without them. -/
theorem forall_contents_iff {holds : Json → Prop} :
    (∀ part ∈ n.contents value, holds part) ↔
      ∀ parts, n.parts? value path = some parts → ∀ part ∈ parts, holds part.1 := by
  cases hparts : n.parts? value path with
  | none => simp [contents_eq_nil hparts]
  | some parts => simp [contents_eq hparts]

end Nesting

namespace Call

/-- A call with so many levels left comes to a report on an object. -/
def Completes (c : Call) : Nat → Plan → Json → Prop
  | 0, _, _ => False
  | depth + 1, plan, object => ∀ f ∈ plan.fields,
      f.Decides c.context (object.member f.name) object ∧
        (c.policy.allows (!(f.complaints c.context (object.member f.name) object).isEmpty) = true →
          ∀ nesting, f.nested = some nesting → (object.member f.name).isNull = false →
            ∃ target, c.plans.get? nesting.schema = some target ∧
              ∀ part ∈ nesting.contents (object.member f.name), part.isObject = true → c.Completes depth target part)

variable {c : Call}

theorem exists_result_field_iff {f : PlannedField} {value object : Json} {path : Path} {stage : Stage} {nested : Task} :
    (∃ r, (Task.field path.text stage (f.chain c.context value object path) c.policy nested).result = .ok r) ↔
      f.Decides c.context value object ∧
        (c.policy.allows (!(f.complaints c.context value object).isEmpty) = true → ∃ r, nested.result = .ok r) := by
  constructor
  · rintro ⟨r, hr⟩
    obtain ⟨habort, ⟨hstops, -⟩ | ⟨-, inner, hinner, -⟩⟩ := result_field_cases hr
    · refine ⟨PlannedField.abort?_eq_none_iff.1 habort, fun hallows => ?_⟩
      rw [hstops] at hallows
      cases hallows
    · exact ⟨PlannedField.abort?_eq_none_iff.1 habort, fun _ => ⟨inner, hinner⟩⟩
  · rintro ⟨hdecides, hnested⟩
    have hchain := f.answer_chain c.context value object path
    rw [PlannedField.abort?_eq_none_iff.2 hdecides] at hchain
    rw [Task.result_field_of_ok hchain]
    cases hallows : c.policy.allows (!(f.complaints c.context value object).isEmpty) with
    | false => exact ⟨_, rfl⟩
    | true =>
        obtain ⟨inner, hinner⟩ := hnested hallows
        rw [if_pos rfl, hinner]
        exact ⟨_, rfl⟩

theorem exists_result_object_iff {enter : Json → Path → Task} {value : Json} {path : Path} :
    (∃ r, (c.object enter value path).result = .ok r) ↔
      (value.isObject = true → ∃ r, (enter value path).result = .ok r) := by
  rw [object_eq]
  by_cases hobject : value.isObject
  · simp [hobject]
  · simp [hobject, result_tell]

theorem exists_result_nested_iff {f : PlannedField} {value : Json} {path : Path} {enter : Plan → Json → Path → Task} :
    (∃ r, (c.nested enter f value path).result = .ok r) ↔
      ∀ nesting, f.nested = some nesting → value.isNull = false →
        ∃ target, c.plans.get? nesting.schema = some target ∧
          ∀ parts, nesting.parts? value path = some parts →
            ∀ part ∈ parts, part.1.isObject = true → ∃ r, (enter target part.1 part.2).result = .ok r := by
  cases hnested : f.nested with
  | none => simp [nested, hnested]
  | some nesting =>
      by_cases hnull : value.isNull
      · simp [nested, hnested, hnull]
      · have hthere : value.isNull = false := eq_false_of_ne_true hnull
        cases htarget : c.plans.get? nesting.schema with
        | none => simp [nested, hnested, hnull, htarget]
        | some target =>
            have hheld : (∃ r, (c.nested enter f value path).result = .ok r) ↔
                ∀ parts, nesting.parts? value path = some parts →
                  ∀ part ∈ parts, part.1.isObject = true → ∃ r, (enter target part.1 part.2).result = .ok r := by
              rw [nested_eq hnested htarget hthere]
              cases hparts : nesting.parts? value path with
              | none => simp [result_tell]
              | some parts =>
                  simp only [Option.some.injEq, forall_eq']
                  by_cases heach : nesting.each
                  · rw [if_pos heach, Task.exists_result_all_iff, List.forall_mem_map]
                    simp only [exists_result_object_iff]
                  · obtain rfl : [(value, path)] = parts := by simpa [Nesting.parts?, heach] using hparts
                    simp [heach, exists_result_object_iff]
            rw [hheld]
            simp [hthere, htarget]

/-- **Which calls come to a report.** -/
theorem exists_report_iff {depth : Nat} {plan : Plan} {object : Json} {path : Path} :
    (∃ report, (c.fields depth plan object path).result = .ok report) ↔ c.Completes depth plan object := by
  induction depth generalizing plan object path with
  | zero => simp [fields, Completes]
  | succ depth ih =>
      rw [fields, Task.exists_result_all_iff, List.forall_mem_map, Completes]
      refine forall₂_congr fun f _ => ?_
      rw [exists_result_field_iff, exists_result_nested_iff]
      simp only [ih, @Nesting.forall_contents_iff _ _ (path.field f.name)]

/-- A call comes to a report if another one does that has the same plans and the same context, no more depth, and a
policy by which everything is looked into that is looked into here. -/
theorem Completes.mono {c' : Call} (hplans : c'.plans = c.plans) (hcontext : c'.context = c.context)
    (hpolicy : ∀ failed, c'.policy.allows failed = true → c.policy.allows failed = true) {depth depth' : Nat}
    (hdepth : depth ≤ depth') {plan : Plan} {object : Json} (h : c.Completes depth plan object) :
    c'.Completes depth' plan object := by
  induction depth generalizing depth' plan object with
  | zero => cases h
  | succ depth ih =>
      cases depth' with
      | zero => exact absurd hdepth (Nat.not_succ_le_zero depth)
      | succ depth' =>
          intro f hf
          obtain ⟨hdecides, hnested⟩ := h f hf
          rw [hcontext, hplans]
          refine ⟨hdecides, fun hallows nesting hfield hthere => ?_⟩
          obtain ⟨target, htarget, hparts⟩ := hnested (hpolicy _ hallows) nesting hfield hthere
          have hfewer : depth ≤ depth' := Nat.le_of_succ_le_succ hdepth
          exact ⟨target, htarget, fun part hpart hobject => ih hfewer (hparts part hpart hobject)⟩

end Call

end Attest

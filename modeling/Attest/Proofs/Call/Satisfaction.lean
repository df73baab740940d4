import Attest.Proofs.Call.Log

/-!
What plans demand of a value, said without any order. It is spoken of fields, steps and values only; there are no
checkpoints, no policy and no limit on the depth, and a step counts whether or not a chain would come to it.

The log of a call that comes to a report is empty exactly for the values that keep all this. A chain stops early and
a value is left alone only after a message, so what was cut off can never have been the only failure.
-/

namespace Attest

namespace PlannedField

variable {f : PlannedField} {ctx : Context} {value parent : Json}

/-- What is demanded of the value of a field itself: it is there unless it may be missing, and each step finds it
valid, where a null is only asked about presence. -/
structure Holds (f : PlannedField) (ctx : Context) (value parent : Json) : Prop where
  present : value.isNull = false ∨ f.nullable = true
  valid : ∀ s ∈ f.steps, s.rule.isPresence = true ∨ value.isNull = false → s.verdict ctx value parent = .ok .valid

theorem concerns_iff {s : PlannedStep} :
    s.concerns value = true ↔ s.rule.isPresence = true ∨ value.isNull = false := by
  rw [PlannedStep.concerns, Bool.or_eq_true, Bool.not_eq_true']
  exact or_comm

theorem isMissing_eq_false_iff : f.isMissing value = false ↔ value.isNull = false ∨ f.nullable = true := by
  rw [isMissing, Bool.and_eq_false_iff, Bool.not_eq_false']

theorem complaint?_eq_none_of_valid {s : PlannedStep} (h : s.verdict ctx value parent = .ok .valid) :
    s.complaint? ctx value parent = none := by
  rw [PlannedStep.complaint?, h]

/-- A step without a message has found the value valid or has come to no verdict. -/
theorem verdict_of_silent {s : PlannedStep} {path : Path} (hcomplaint : s.complaint? ctx value parent = none)
    (habort : s.abort? ctx value parent path = none) : s.verdict ctx value parent = .ok .valid := by
  cases hverdict : s.verdict ctx value parent with
  | error failure => simp [PlannedStep.abort?, hverdict] at habort
  | ok verdict =>
      cases verdict with
      | valid => rfl
      | invalid detail => simp [PlannedStep.complaint?, hverdict] at hcomplaint

/-! ### Chains without messages -/

theorem mem_steps_of_mem_asked {s : PlannedStep} (h : s ∈ f.asked ctx value parent) :
    s ∈ f.steps ∧ s.concerns value = true := by
  obtain ⟨hwalked, hconcerns⟩ := List.mem_filter.1 h
  refine ⟨?_, hconcerns⟩
  obtain ⟨⟨_, p⟩, hpair, rfl⟩ := List.mem_map.1 hwalked
  exact List.fst_mem_of_mem_zipIdx ((List.takeWhile_sublist _).subset hpair)

/-- Without a message there is no halt, so that the chain goes to the end. -/
theorem walked_eq_of_silent {before rest : List PlannedStep} (hsteps : f.steps = before ++ rest)
    (hbefore : f.failsBefore ctx value parent before.length = false)
    (hsilent : ∀ s ∈ f.walked ctx value parent before.length rest, s.concerns value = true →
      s.complaint? ctx value parent = none) :
    f.walked ctx value parent before.length rest = rest := by
  induction rest generalizing before with
  | nil => rfl
  | cons s rest ih =>
      -- Nothing has failed before this step, so a checkpoint here does not stop the chain.
      have hgoes : f.haltsAt ctx value parent before.length = false := by rw [haltsAt, hbefore, Bool.false_and]
      have hwalked := f.walked_cons ctx value parent before.length s rest
      rw [hgoes, if_neg Bool.false_ne_true] at hwalked
      rw [hwalked] at hsilent ⊢
      have hnext : f.steps = (before ++ [s]) ++ rest := by rw [hsteps, List.append_assoc, List.singleton_append]
      have hlength : (before ++ [s]).length = before.length + 1 := by simp
      have hfails : f.failsBefore ctx value parent (before ++ [s]).length = false := by
        rw [hlength, failsBefore_succ f ctx value parent hsteps, hbefore, Bool.false_or]
        cases hconcerns : s.concerns value with
        | false => rfl
        | true => rw [hsilent s List.mem_cons_self hconcerns, Option.isSome_none, Bool.and_false]
      have hrest := ih hnext hfails
      rw [hlength] at hrest
      rw [hrest fun t ht => hsilent t (List.mem_cons_of_mem s ht)]

theorem complaints_eq_nil_iff_silent : f.complaints ctx value parent = [] ↔
    f.isMissing value = false ∧ ∀ s ∈ f.asked ctx value parent, s.complaint? ctx value parent = none := by
  rw [complaints, List.append_eq_nil_iff, List.filterMap_eq_nil_iff, missing]
  cases f.isMissing value <;> simp

/-- The value of a field that aborts nothing has no message exactly if it is as it should be. -/
theorem complaints_eq_nil_iff {path : Path} (habort : f.abort? ctx value parent path = none) :
    f.complaints ctx value parent = [] ↔ f.Holds ctx value parent := by
  rw [complaints_eq_nil_iff_silent]
  constructor
  · rintro ⟨hpresent, hsilent⟩
    have hstart : f.failsBefore ctx value parent 0 = false := by simp [failsBefore, hpresent]
    have hwalked : f.walked ctx value parent 0 f.steps = f.steps :=
      walked_eq_of_silent (show f.steps = [] ++ f.steps from rfl) hstart fun s hs hconcerns =>
        hsilent s (List.mem_filter.2 ⟨hs, hconcerns⟩)
    refine ⟨isMissing_eq_false_iff.1 hpresent, fun s hs hconcerns => ?_⟩
    have hasked : s ∈ f.asked ctx value parent := by
      rw [asked, hwalked]
      exact List.mem_filter.2 ⟨hs, concerns_iff.2 hconcerns⟩
    exact verdict_of_silent (hsilent s hasked) (List.findSome?_eq_none_iff.1 habort s hasked)
  · intro h
    refine ⟨isMissing_eq_false_iff.2 h.present, fun s hs => ?_⟩
    obtain ⟨hmem, hconcerns⟩ := mem_steps_of_mem_asked hs
    exact complaint?_eq_none_of_valid (h.valid s hmem (concerns_iff.1 hconcerns))

end PlannedField

/-- What a nested schema demands of a value that is there, `keeps` being what it demands of an object: that the value
is such an object, or that it is a list of such objects and nulls. -/
def Nesting.Demands (n : Nesting) (value : Json) (keeps : Json → Prop) : Prop :=
  if n.each then
    ∃ items, value = .array items ∧ ∀ item ∈ items, item.isNull = false → item.isObject = true ∧ keeps item
  else value.isObject = true ∧ keeps value

namespace PlanSet

/-- The object keeps the plan: each field holds, and if it has a nested schema and a value that is there, the value is
as the nested schema demands. -/
def Satisfies (plans : PlanSet) (ctx : Context) (plan : Plan) (object : Json) : Prop :=
  ∀ f ∈ plan.fields, f.Holds ctx (object.member f.name) object ∧
    ∀ nesting, f.nested = some nesting → (_hthere : (object.member f.name).isNull = false) →
      ∃ target, plans.get? nesting.schema = some target ∧
        if nesting.each then
          ∃ items, ∃ _hitems : object.member f.name = .array items,
            ∀ item, (_hitem : item ∈ items) → item.isNull = false →
              item.isObject = true ∧ plans.Satisfies ctx target item
        else (object.member f.name).isObject = true ∧ plans.Satisfies ctx target (object.member f.name)
termination_by sizeOf object
decreasing_by
  · have hlt := Json.sizeOf_member_lt _hthere
    have hitem := List.sizeOf_lt_of_mem _hitem
    rw [_hitems, Json.array.sizeOf_spec] at hlt
    omega
  · exact Json.sizeOf_member_lt _hthere

theorem satisfies_iff {plans : PlanSet} {ctx : Context} {plan : Plan} {object : Json} :
    plans.Satisfies ctx plan object ↔ ∀ f ∈ plan.fields, f.Holds ctx (object.member f.name) object ∧
      ∀ nesting, f.nested = some nesting → (object.member f.name).isNull = false →
        ∃ target, plans.get? nesting.schema = some target ∧
          nesting.Demands (object.member f.name) (plans.Satisfies ctx target) := by
  rw [Satisfies]
  simp only [Nesting.Demands, exists_prop]

end PlanSet

/-! ### Logs without messages -/

namespace Nesting

variable {n : Nesting} {value : Json} {path : Path} {keeps : Json → Prop}

theorem demands_iff_of_parts {parts : List (Json × Path)} (hparts : n.parts? value path = some parts) :
    n.Demands value keeps ↔ ∀ part ∈ parts, part.1.isObject = true ∧ keeps part.1 := by
  rw [parts?] at hparts
  rw [Demands]
  by_cases heach : n.each
  · rw [if_pos heach] at hparts ⊢
    obtain ⟨items, hitems, rfl⟩ := Option.map_eq_some_iff.1 hparts
    obtain rfl : value = .array items := by
      cases value <;> simp_all [Json.array?]
    constructor
    · rintro ⟨_, heq, hkeeps⟩ part hpart
      obtain rfl := Json.array.inj heq
      obtain ⟨⟨item, i⟩, hitem, rfl⟩ := List.mem_map.1 hpart
      obtain ⟨hmem, hthere⟩ := List.mem_filter.1 hitem
      exact hkeeps item (List.fst_mem_of_mem_zipIdx hmem) (Bool.not_eq_true' _ ▸ hthere)
    · intro hkeeps
      refine ⟨items, rfl, fun item hitem hthere => ?_⟩
      obtain ⟨i, hi, rfl⟩ := List.mem_iff_getElem.1 hitem
      have hmem : (items[i], i) ∈ items.zipIdx := List.mem_zipIdx_iff_getElem?.2 (by simp [hi])
      exact hkeeps (items[i], path.index i)
        (List.mem_map.2 ⟨(items[i], i), List.mem_filter.2 ⟨hmem, by simp [hthere]⟩, rfl⟩)
  · rw [if_neg heach] at hparts ⊢
    obtain rfl := Option.some.inj hparts
    simp

theorem not_demands_of_no_parts (hparts : n.parts? value path = none) : ¬n.Demands value keeps := by
  rw [parts?] at hparts
  by_cases heach : n.each
  · rw [if_pos heach, Option.map_eq_none_iff] at hparts
    rw [Demands, if_pos heach]
    rintro ⟨items, rfl, _⟩
    cases hparts
  · rw [if_neg heach] at hparts
    cases hparts

end Nesting

namespace Call

/-- Each value that a nested schema is held against comes to a report if all of them together do. -/
theorem exists_report_of_mem_parts {c : Call} {f : PlannedField} {nesting : Nesting} {target : Plan}
    {value : Json} {path : Path} {enter : Plan → Json → Path → Task} {parts : List (Json × Path)}
    {report : Report} (hnested : f.nested = some nesting) (htarget : c.plans.get? nesting.schema = some target)
    (hthere : value.isNull = false) (hparts : nesting.parts? value path = some parts)
    (h : (c.nested enter f value path).result = .ok report) :
    ∀ part ∈ parts, ∃ r, (c.object (enter target) part.1 part.2).result = .ok r := by
  intro part hpart
  rw [nested_eq hnested htarget hthere] at h
  simp only [hparts] at h
  by_cases heach : nesting.each
  · rw [if_pos heach] at h
    exact Task.exists_result_of_mem_all h (List.mem_map_of_mem hpart)
  · rw [if_neg heach] at h
    obtain rfl : [(value, path)] = parts := by simpa [Nesting.parts?, heach] using hparts
    obtain rfl := List.mem_singleton.1 hpart
    exact ⟨report, h⟩

/-- What holds of the logs below an object carries over to the values that a nested schema is held against. -/
theorem partsLog_eq_nil_iff {c : Call} {f : PlannedField} {nesting : Nesting} {target : Plan} {value : Json}
    {path : Path} {enter : Plan → Json → Path → Task} {report : Report}
    (henter : ∀ object place r, (enter target object place).result = .ok r →
      (c.log target object place = [] ↔ c.plans.Satisfies c.context target object))
    (hnested : f.nested = some nesting) (htarget : c.plans.get? nesting.schema = some target)
    (hthere : value.isNull = false) (h : (c.nested enter f value path).result = .ok report) :
    c.partsLog nesting target value path = [] ↔
      nesting.Demands value (c.plans.Satisfies c.context target) := by
  rw [partsLog]
  cases hparts : nesting.parts? value path with
  | none =>
      simp only [notice, List.cons_ne_nil, false_iff]
      exact Nesting.not_demands_of_no_parts hparts
  | some parts =>
      rw [Nesting.demands_iff_of_parts hparts, List.flatMap_eq_nil_iff]
      refine forall₂_congr fun part hpart => ?_
      obtain ⟨r, hr⟩ := exists_report_of_mem_parts hnested htarget hthere hparts h part hpart
      rw [object_eq] at hr
      by_cases hobject : part.1.isObject
      · rw [if_pos hobject] at hr ⊢
        rw [henter part.1 part.2 r hr]
        simp [hobject]
      · rw [if_neg hobject]
        simp [hobject, notice]

/-- A call that comes to a report on an object has no message about it exactly if the object keeps the plan. -/
theorem log_eq_nil_iff {c : Call} {depth : Nat} {plan : Plan} {object : Json} {path : Path} {report : Report}
    (h : (c.fields depth plan object path).result = .ok report) :
    c.log plan object path = [] ↔ c.plans.Satisfies c.context plan object := by
  induction depth generalizing plan object path report with
  | zero => simp [fields] at h
  | succ depth ih =>
      rw [log_eq, List.flatMap_eq_nil_iff, PlanSet.satisfies_iff]
      refine forall₂_congr fun f hf => ?_
      obtain ⟨r, hr⟩ := Task.exists_result_of_mem_all h (List.mem_map_of_mem hf)
      obtain ⟨habort, hcases⟩ := result_field_cases hr
      rw [fieldLog, List.append_eq_nil_iff, Log.single, List.map_eq_nil_iff,
        PlannedField.complaints_eq_nil_iff habort]
      refine and_congr_right fun hholds => ?_
      -- Without a message about the value itself either policy lets the walk go on.
      have hsilent := (PlannedField.complaints_eq_nil_iff habort).2 hholds
      have hallows : c.policy.allows (!(f.complaints c.context (object.member f.name) object).isEmpty) = true := by
        rw [hsilent]
        cases c.policy <;> rfl
      rcases hcases with ⟨hstopped, -⟩ | ⟨-, inner, hnested, -⟩
      · rw [hallows] at hstopped
        cases hstopped
      · rcases result_nested_cases hallows hnested with ⟨hbare, _⟩ | ⟨nesting, target, hsome⟩
        · rw [inner?_eq_none_of_bare hbare]
          refine iff_of_true rfl fun nesting hfield hthere => ?_
          rcases hbare with hnone | hnull
          · rw [hnone] at hfield
            cases hfield
          · rw [hnull] at hthere
            cases hthere
        · obtain ⟨hfield, htarget, hthere, _⟩ := inner?_eq_some_iff.1 hsome
          rw [hsome, partsLog_eq_nil_iff (fun _ _ _ => ih) hfield htarget hthere hnested]
          constructor
          · intro hdemands other hother _
            obtain rfl := Option.some.inj (hfield.symm.trans hother)
            exact ⟨target, htarget, hdemands⟩
          · intro hdemands
            obtain ⟨other, hother, hkeeps⟩ := hdemands nesting hfield hthere
            obtain rfl := Option.some.inj (htarget.symm.trans hother)
            exact hkeeps

end Call

end Attest

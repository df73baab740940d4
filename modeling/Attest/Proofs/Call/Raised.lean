import Attest.Proofs.Call.Log
import Attest.Proofs.Interleaving.Step

/-!
What a call may abort with, said about the value and the plans. The objects that the call may come to are those that
a walk through the value enters; each abort is raised by one of them or by one of its fields, and names the place
where that is.
-/

namespace Attest

namespace Call

variable (c : Call)

/-- The objects that the call may come to, with how deep they are: the value itself, and from an object that is not
too deep the objects nested in a field whose chain comes to its end and whose value is looked into. -/
inductive Visits (start : Plan) (value : Json) : Nat → Plan → Json → Path → Prop
  | start : Visits start value 0 start value .root
  | nested {level plan object path f nesting target parts part place}
      (h : Visits start value level plan object path) (hlevel : level ≤ c.maxDepth) (hf : f ∈ plan.fields)
      (hchain : f.abort? c.context (object.member f.name) object (path.field f.name) = none)
      (hinner : c.inner? f (object.member f.name) object = some (nesting, target))
      (hparts : nesting.parts? (object.member f.name) (path.field f.name) = some parts)
      (hpart : (part, place) ∈ parts) (hobject : part.isObject = true) :
      Visits start value (level + 1) target part place

/-- The aborts of a call on a value, each with the place where it is raised. -/
inductive Raises (schema : String) (value : Json) : Abort → Prop
  /-- The schema asked for is not there. -/
  | noSchema (h : c.plans.get? schema = none) : Raises schema value (.unknownSchema schema)
  /-- An object is too deep. -/
  | tooDeep {start level plan object path} (hstart : c.plans.get? schema = some start)
      (hvisit : c.Visits start value level plan object path) (hlevel : c.maxDepth < level) :
      Raises schema value (.tooDeep path.text c.maxDepth)
  /-- A step of a field comes to no verdict, and it is the first step of the field that comes to none. -/
  | noVerdict {start level plan object path f before s after failure} (hstart : c.plans.get? schema = some start)
      (hvisit : c.Visits start value level plan object path) (hlevel : level ≤ c.maxDepth) (hf : f ∈ plan.fields)
      (hasked : f.asked c.context (object.member f.name) object = before ++ s :: after)
      (hbefore : ∀ t ∈ before, ∃ verdict, t.verdict c.context (object.member f.name) object = .ok verdict)
      (hs : s.verdict c.context (object.member f.name) object = .error failure) :
      Raises schema value (.predicateFailed s.predicateName (path.field f.name).text failure)
  /-- The value of a field is to be looked into by a schema that is not there. -/
  | noNested {start level plan object path f nesting} (hstart : c.plans.get? schema = some start)
      (hvisit : c.Visits start value level plan object path) (hlevel : level ≤ c.maxDepth) (hf : f ∈ plan.fields)
      (hchain : f.abort? c.context (object.member f.name) object (path.field f.name) = none)
      (hnested : f.nested = some nesting) (hthere : (object.member f.name).isNull = false)
      (hallows : c.policy.allows (!(f.complaints c.context (object.member f.name) object).isEmpty) = true)
      (hnone : c.plans.get? nesting.schema = none) : Raises schema value (.unknownSchema nesting.schema)

end Call

/-- The step that a chain aborts at. -/
theorem PlannedField.abort?_eq_some_iff {f : PlannedField} {ctx : Context} {value parent : Json} {path : Path}
    {abort : Abort} : f.abort? ctx value parent path = some abort ↔
      ∃ before s after failure, f.asked ctx value parent = before ++ s :: after ∧
        (∀ t ∈ before, ∃ verdict, t.verdict ctx value parent = .ok verdict) ∧
        s.verdict ctx value parent = .error failure ∧
        abort = .predicateFailed s.predicateName path.text failure := by
  have hnone (s : PlannedStep) :
      s.abort? ctx value parent path = none ↔ ∃ verdict, s.verdict ctx value parent = .ok verdict := by
    cases h : s.verdict ctx value parent <;> simp [PlannedStep.abort?, h]
  have hsome (s : PlannedStep) : s.abort? ctx value parent path = some abort ↔
      ∃ failure, s.verdict ctx value parent = .error failure ∧
        abort = .predicateFailed s.predicateName path.text failure := by
    cases h : s.verdict ctx value parent <;> simp [PlannedStep.abort?, h, eq_comm]
  rw [abort?, List.findSome?_eq_some_iff]
  simp only [hnone, hsome]
  constructor
  · rintro ⟨before, s, after, hasked, ⟨failure, hverdict, habort⟩, hbefore⟩
    exact ⟨before, s, after, failure, hasked, hbefore, hverdict, habort⟩
  · rintro ⟨before, s, after, failure, hasked, hbefore, hverdict, habort⟩
    exact ⟨before, s, after, hasked, ⟨failure, hverdict, habort⟩, hbefore⟩

namespace Call

variable {c : Call}

/-- What the task of a nested value may abort with: that its schema is not there, or what an object in it does. -/
theorem aborts_nested {f : PlannedField} {value : Json} {path : Path} {enter : Plan → Json → Path → Task}
    {abort : Abort} (h : (c.nested enter f value path).Aborts abort) :
    ∃ nesting, f.nested = some nesting ∧ value.isNull = false ∧
      (c.plans.get? nesting.schema = none ∧ abort = .unknownSchema nesting.schema ∨
        ∃ target parts part place, c.plans.get? nesting.schema = some target ∧
          nesting.parts? value path = some parts ∧ (part, place) ∈ parts ∧ part.isObject = true ∧
          (enter target part place).Aborts abort) := by
  have hobject {target : Plan} {part : Json × Path} (h : (c.object (enter target) part.1 part.2).Aborts abort) :
      part.1.isObject = true ∧ (enter target part.1 part.2).Aborts abort := by
    rw [object_eq] at h
    split at h
    next hobject => exact ⟨hobject, h⟩
    next => cases h
  cases hnested : f.nested with
  | none =>
      rw [nested, hnested] at h
      cases h
  | some nesting =>
      by_cases hnull : value.isNull
      · simp only [nested, hnested, hnull, if_true] at h
        cases h
      · have hthere : value.isNull = false := eq_false_of_ne_true hnull
        refine ⟨nesting, rfl, hthere, ?_⟩
        cases htarget : c.plans.get? nesting.schema with
        | none =>
            simp only [nested, hnested, hnull, htarget] at h
            cases h
            exact .inl ⟨rfl, rfl⟩
        | some target =>
            rw [nested_eq hnested htarget hthere] at h
            cases hparts : nesting.parts? value path with
            | none =>
                simp only [hparts] at h
                cases h
            | some parts =>
                simp only [hparts] at h
                by_cases heach : nesting.each
                · rw [if_pos heach] at h
                  cases h with
                  | part hmem h =>
                      obtain ⟨part, hpart, rfl⟩ := List.mem_map.1 hmem
                      obtain ⟨hisObject, habort⟩ := hobject h
                      exact .inr ⟨target, parts, part.1, part.2, rfl, rfl, hpart, hisObject, habort⟩
                · rw [if_neg heach] at h
                  obtain rfl : [(value, path)] = parts := by simpa [Nesting.parts?, heach] using hparts
                  obtain ⟨hisObject, habort⟩ := @hobject target (value, path) h
                  exact .inr ⟨target, _, value, path, rfl, rfl, List.mem_singleton.2 rfl, hisObject, habort⟩

/-- Whatever the task of an object may abort with is raised by the call that came to the object. -/
theorem raises_of_aborts_fields {schema : String} {start : Plan} {value : Json}
    (hstart : c.plans.get? schema = some start) {depth level : Nat} {plan : Plan} {object : Json} {path : Path}
    {abort : Abort} (hvisit : c.Visits start value level plan object path) (hdepth : level + depth = c.maxDepth + 1)
    (h : (c.fields depth plan object path).Aborts abort) : c.Raises schema value abort := by
  induction depth generalizing level plan object path with
  | zero =>
      cases h
      exact .tooDeep hstart hvisit (by omega)
  | succ depth ih =>
      -- The depth that is left and the level of the object always come to the same sum.
      have hlevel : level ≤ c.maxDepth := by omega
      cases h with
      | part hmem h =>
          obtain ⟨f, hf, rfl⟩ := List.mem_map.1 hmem
          have hchain := f.answer_chain c.context (object.member f.name) object (path.field f.name)
          cases habort : f.abort? c.context (object.member f.name) object (path.field f.name) with
          | some other =>
              rw [habort] at hchain
              obtain ⟨before, s, after, failure, hasked, hbefore, hs, rfl⟩ := PlannedField.abort?_eq_some_iff.1 habort
              cases h with
              | chain h =>
                  obtain rfl := Except.error.inj (hchain.symm.trans h)
                  exact .noVerdict hstart hvisit hlevel hf hasked hbefore hs
              | inner h _ _ => cases hchain.symm.trans h
          | none =>
              rw [habort] at hchain
              cases h with
              | chain h => cases hchain.symm.trans h
              | inner h hallows hnested =>
                  obtain rfl := Except.ok.inj (hchain.symm.trans h)
                  obtain ⟨nesting, hfield, hthere, ⟨hnone, rfl⟩ | hpart⟩ := aborts_nested hnested
                  · exact .noNested hstart hvisit hlevel hf habort hfield hthere hallows hnone
                  · obtain ⟨target, parts, part, place, htarget, hparts, hmem, hobject, h⟩ := hpart
                    have hinner := inner?_eq_some_iff.2 ⟨hfield, htarget, hthere, hallows⟩
                    exact ih (.nested hvisit hlevel hf habort hinner hparts hmem hobject) (by omega) h

/-- Whatever the task of a call may abort with is raised by the call. -/
theorem raises_of_aborts {schema : String} {value : Json} {abort : Abort}
    (h : (c.task schema value).Aborts abort) : c.Raises schema value abort := by
  rw [task] at h
  cases hstart : c.plans.get? schema with
  | none =>
      rw [hstart] at h
      cases h
      exact .noSchema hstart
  | some start =>
      rw [hstart] at h
      exact raises_of_aborts_fields hstart .start (Nat.zero_add _) h

end Call

end Attest

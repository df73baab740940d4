import Attest.Proofs.Call.Completion
import Attest.Proofs.Report.Muting

/-!
Two calls that differ only in where messages come from. Each step comes to the same verdict in both, and a verdict is
all that a chain, a checkpoint or a policy is ever steered by: they ask whether there is a message, never what it says.
So whatever part of one call is taken, it comes to the same abort as in the other, or to reports that are the same when
muted.
-/

namespace Attest

namespace PlannedField

variable {f : PlannedField} {ctx ctx' : Context} {value parent : Json} {path : Path}

/-- A step fails in both contexts or in neither. -/
theorem isSome_complaint?_congr {s : PlannedStep} (h : s.verdict ctx value parent = s.verdict ctx' value parent) :
    (s.complaint? ctx value parent).isSome = (s.complaint? ctx' value parent).isSome := by
  rw [PlannedStep.complaint?, PlannedStep.complaint?, h]
  split <;> rfl

variable (hverdict : ∀ s ∈ f.steps, s.verdict ctx value parent = s.verdict ctx' value parent)
include hverdict

theorem asked_congr : f.asked ctx value parent = f.asked ctx' value parent := by
  have hfails (position : Nat) : f.failsBefore ctx value parent position = f.failsBefore ctx' value parent position := by
    rw [failsBefore, failsBefore]
    refine congrArg _ ?_
    rw [Bool.eq_iff_iff, List.any_eq_true, List.any_eq_true]
    refine exists_congr fun s => and_congr_right fun hs => ?_
    rw [isSome_complaint?_congr (hverdict s (List.mem_of_mem_take hs))]
  have hhalts : f.haltsAt ctx value parent = f.haltsAt ctx' value parent := by
    funext position
    rw [haltsAt, haltsAt, hfails]
  rw [asked, asked, walked, walked, hhalts]

theorem abort?_congr : f.abort? ctx value parent path = f.abort? ctx' value parent path := by
  rw [abort?, abort?, asked_congr hverdict, ← List.head?_filterMap, ← List.head?_filterMap]
  refine congrArg List.head? (List.filterMap_congr fun s hs => ?_)
  rw [PlannedStep.abort?, PlannedStep.abort?, hverdict s (mem_steps_of_mem_asked hs).1]

theorem length_complaints_congr :
    (f.complaints ctx value parent).length = (f.complaints ctx' value parent).length := by
  have hmissing : (f.missing ctx value).length = (f.missing ctx' value).length := by
    rw [missing, missing]
    split <;> rfl
  have hsteps (steps : List PlannedStep) (h : ∀ s ∈ steps, s ∈ f.steps) :
      (steps.filterMap (·.complaint? ctx value parent)).length =
        (steps.filterMap (·.complaint? ctx' value parent)).length := by
    rw [List.length_filterMap_eq_countP, List.length_filterMap_eq_countP]
    exact List.countP_congr fun s hs => by rw [isSome_complaint?_congr (hverdict s (h s hs))]
  rw [complaints, complaints, List.length_append, List.length_append, hmissing, asked_congr hverdict,
    hsteps _ fun s hs => (mem_steps_of_mem_asked hs).1]

/-- The chain of a field aborts in both contexts with the same, or it leaves as many messages in either. -/
theorem answer_chain_congr :
    (f.chain ctx value parent path).answer.map hush = (f.chain ctx' value parent path).answer.map hush := by
  rw [answer_chain, answer_chain, abort?_congr hverdict]
  cases f.abort? ctx' value parent path with
  | some abort => rfl
  | none => exact congrArg Except.ok (hush_eq_iff.2 (length_complaints_congr hverdict))

end PlannedField

namespace Task

/-- What a task comes to, without what its messages say. -/
def muted (t : Task) : Except Abort Report :=
  t.result.map Report.mute

theorem muted_telling (path : String) (message : Activity String) :
    (telling path message).muted = .ok (Report.empty.push path "") := by
  rw [muted, result_telling]
  exact congrArg Except.ok (Report.mute_push .empty path _)

theorem muted_field_congr {path : String} {stage : Stage} {chain chain' : Activity (Except Abort (List String))}
    {policy : NestedPolicy} {nested nested' : Task} (hchain : chain.answer.map hush = chain'.answer.map hush)
    (hnested : nested.muted = nested'.muted) :
    (field path stage chain policy nested).muted = (field path stage chain' policy nested').muted := by
  cases hanswer : chain.answer with
  | error abort =>
      cases hanswer' : chain'.answer with
      | error abort' =>
          rw [hanswer, hanswer'] at hchain
          obtain rfl : abort = abort' := Except.error.inj hchain
          rw [muted, muted, result_field_of_error hanswer, result_field_of_error hanswer']
      | ok messages =>
          rw [hanswer, hanswer'] at hchain
          cases hchain
  | ok messages =>
      cases hanswer' : chain'.answer with
      | error abort =>
          rw [hanswer, hanswer'] at hchain
          cases hchain
      | ok messages' =>
          rw [hanswer, hanswer'] at hchain
          have hhush : hush messages = hush messages' := Except.ok.inj hchain
          have hempty : messages.isEmpty = messages'.isEmpty := by rw [← isEmpty_hush, hhush, isEmpty_hush]
          have hbefore : (Report.empty.extend path messages).mute = (Report.empty.extend path messages').mute := by
            rw [Report.mute_extend, Report.mute_extend, hhush]
          rw [muted, muted, result_field_of_ok hanswer, result_field_of_ok hanswer', hempty]
          cases policy.allows (!messages'.isEmpty) with
          | false => exact congrArg Except.ok hbefore
          | true =>
              have hmerge (before : Report) (t : Task) :
                  (t.result.map before.merge).map Report.mute = t.muted.map before.mute.merge := by
                rw [muted]
                cases t.result with
                | error abort => rfl
                | ok report => exact congrArg Except.ok (before.mute_merge report)
              rw [if_pos rfl, if_pos rfl, hmerge, hmerge, hnested, hbefore]

/-- Tasks next to each other: the first abort in their order is the same, or all the reports are. -/
theorem muted_all_congr {parts : List α} {task task' : α → Task}
    (h : ∀ part ∈ parts, (task part).muted = (task' part).muted) :
    (all (parts.map task)).muted = (all (parts.map task')).muted := by
  have hresults : (results (parts.map task)).map (List.map Report.mute) =
      (results (parts.map task')).map (List.map Report.mute) := by
    induction parts with
    | nil => rfl
    | cons part parts ih =>
        have hfirst := h part List.mem_cons_self
        have hrest := ih fun other hother => h other (List.mem_cons_of_mem part hother)
        have hcons (t : Task) (ts : List Task) : (results (t :: ts)).map (List.map Report.mute) =
            t.muted.bind fun report => ((results ts).map (List.map Report.mute)).map (report :: ·) := by
          rw [results_cons, muted]
          cases t.result with
          | error abort => rfl
          | ok report => cases results ts <;> rfl
        rw [List.map_cons, List.map_cons, hcons, hcons, hfirst, hrest]
  have hall (ts : List Task) : (all ts).muted =
      ((results ts).map (List.map Report.mute)).map fun reports => reports.foldl Report.merge .empty := by
    rw [muted, result_all]
    cases results ts with
    | error abort => rfl
    | ok reports => exact congrArg Except.ok (Report.mute_foldl_merge reports .empty)
  rw [hall, hall, hresults]

end Task

namespace Call

/-- The two calls have the same plans, policy and limit, and every step of the plans comes to the same verdict in
both. -/
structure Echoes (c c' : Call) : Prop where
  plans : c'.plans = c.plans
  policy : c'.policy = c.policy
  maxDepth : c'.maxDepth = c.maxDepth
  verdict : ∀ plan ∈ c.plans.plans, ∀ f ∈ plan.fields, ∀ s ∈ f.steps, ∀ value parent,
    s.verdict c.context value parent = s.verdict c'.context value parent

variable {c c' : Call}

theorem muted_tell_congr (key : String) (path : Path) : (c.tell key path).muted = (c'.tell key path).muted := by
  rw [tell, tell, Task.muted_telling, Task.muted_telling]

theorem muted_object_congr {enter enter' : Json → Path → Task}
    (henter : ∀ value path, (enter value path).muted = (enter' value path).muted) (value : Json) (path : Path) :
    (c.object enter value path).muted = (c'.object enter' value path).muted := by
  rw [object_eq, object_eq]
  by_cases hobject : value.isObject
  · rw [if_pos hobject, if_pos hobject, henter]
  · rw [if_neg hobject, if_neg hobject, muted_tell_congr]

namespace Echoes

theorem muted_nested (h : c.Echoes c') {enter enter' : Plan → Json → Path → Task}
    (henter : ∀ target ∈ c.plans.plans, ∀ value path, (enter target value path).muted = (enter' target value path).muted)
    (f : PlannedField) (value : Json) (path : Path) :
    (c.nested enter f value path).muted = (c'.nested enter' f value path).muted := by
  cases hnested : f.nested with
  | none => simp only [nested, hnested]
  | some nesting =>
      by_cases hnull : value.isNull
      · simp only [nested, hnested, hnull, if_true]
      · have hthere : value.isNull = false := eq_false_of_ne_true hnull
        cases htarget : c.plans.get? nesting.schema with
        | none => simp only [nested, hnested, hnull, h.plans, htarget]
        | some target =>
            have htarget' : c'.plans.get? nesting.schema = some target := by rw [h.plans, htarget]
            have hobject (value : Json) (path : Path) :
                (c.object (enter target) value path).muted = (c'.object (enter' target) value path).muted :=
              muted_object_congr (henter target (PlanSet.mem_of_get? htarget)) value path
            rw [nested_eq hnested htarget hthere, nested_eq hnested htarget' hthere]
            cases nesting.parts? value path with
            | none => exact muted_tell_congr "expected_array" path
            | some parts =>
                simp only
                by_cases heach : nesting.each
                · rw [if_pos heach, if_pos heach]
                  exact Task.muted_all_congr fun part _ => hobject part.1 part.2
                · rw [if_neg heach, if_neg heach, hobject]

/-- **An object comes to the same in both calls** when muted: to the same abort, or to reports of the same shape. -/
theorem muted_fields (h : c.Echoes c') {depth : Nat} {plan : Plan} (hplan : plan ∈ c.plans.plans) (object : Json)
    (path : Path) : (c.fields depth plan object path).muted = (c'.fields depth plan object path).muted := by
  induction depth generalizing plan object path with
  | zero => simp only [fields, h.maxDepth]
  | succ depth ih =>
      rw [fields, fields]
      refine Task.muted_all_congr fun f hf => ?_
      simp only [h.policy]
      refine Task.muted_field_congr ?_ (h.muted_nested (fun target htarget => ih htarget) f _ _)
      exact PlannedField.answer_chain_congr fun s hs => h.verdict plan hplan f hf s hs _ _

end Echoes

end Call

end Attest

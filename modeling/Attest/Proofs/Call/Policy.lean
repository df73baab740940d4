import Attest.Proofs.Call.Completion
import Attest.Proofs.Call.Raised
import Mathlib.Data.List.Flatten

/-!
The same call under two policies, one of which looks into no value that the other leaves alone. What a field says about
its own value does not depend on the policy, and so the narrower call leaves out what is nested in some fields and
changes nothing else: its log is the log of the wider one with messages left out.

It does not follow that a message is left. That is seen from what the plans demand, which knows no policy: whichever
call comes to a report, it is without messages for the same values.
-/

namespace Attest

namespace Log

variable {a b : Log}

theorem mem_paths_of_sublist (h : a.Sublist b) {path : String} (hpath : path ∈ a.paths) : path ∈ b.paths :=
  mem_paths.2 ((h.map _).subset (mem_paths.1 hpath))

theorem messages_sublist (h : a.Sublist b) (path : String) : (a.messages path).Sublist (b.messages path) :=
  (h.filter _).map _

end Log

namespace Call

/-- The two calls share their plans and their context, and `narrow` looks into no value that `wide` leaves alone. -/
structure Narrows (narrow wide : Call) : Prop where
  plans : narrow.plans = wide.plans
  context : narrow.context = wide.context
  allows : ∀ failed, narrow.policy.allows failed = true → wide.policy.allows failed = true

namespace Narrows

variable {narrow wide : Call}

theorem inner?_eq (h : narrow.Narrows wide) {f : PlannedField} {value object : Json} {inner : Nesting × Plan}
    (hinner : narrow.inner? f value object = some inner) : wide.inner? f value object = some inner := by
  obtain ⟨nesting, target⟩ := inner
  obtain ⟨hfield, htarget, hthere, hallows⟩ := inner?_eq_some_iff.1 hinner
  rw [h.plans] at htarget
  rw [h.context] at hallows
  exact inner?_eq_some_iff.2 ⟨hfield, htarget, hthere, h.allows _ hallows⟩

theorem notice_eq (h : narrow.Narrows wide) (key : String) (path : Path) :
    narrow.notice key path = wide.notice key path := by
  rw [notice, notice, h.context]

/-- What holds of the logs below an object carries over to the values that a nested schema is held against. -/
theorem partsLog_sublist (h : narrow.Narrows wide) {nesting : Nesting} {target : Plan} {value : Json} {path : Path}
    (hlog : ∀ part, sizeOf part ≤ sizeOf value → ∀ path,
      (narrow.log target part path).Sublist (wide.log target part path)) :
    (narrow.partsLog nesting target value path).Sublist (wide.partsLog nesting target value path) := by
  rw [partsLog, partsLog]
  cases hparts : nesting.parts? value path with
  | none => rw [h.notice_eq]
  | some parts =>
      refine List.Sublist.flatMap_right parts fun part hpart => ?_
      by_cases hobject : part.1.isObject
      · rw [if_pos hobject, if_pos hobject]
        exact hlog part.1 (Nesting.sizeOf_part_le hparts hpart) part.2
      · rw [if_neg hobject, if_neg hobject, h.notice_eq]

/-- **The narrower log is the wider one with messages left out.** -/
theorem log_sublist (h : narrow.Narrows wide) (plan : Plan) (object : Json) (path : Path) :
    (narrow.log plan object path).Sublist (wide.log plan object path) := by
  induction hsize : sizeOf object using Nat.strongRecOn generalizing plan object path with
  | ind size ih =>
      rw [log_eq, log_eq]
      refine List.Sublist.flatMap_right plan.fields fun f _ => ?_
      rw [fieldLog, fieldLog, h.context]
      refine List.Sublist.append (.refl _) ?_
      -- What the narrower call looks into the wider one looks into as well, by the same schema.
      cases hinner : narrow.inner? f (object.member f.name) object with
      | none => exact List.nil_sublist _
      | some inner =>
          rw [h.inner?_eq hinner]
          refine h.partsLog_sublist fun part hle path => ?_
          have hlt : sizeOf (object.member f.name) < sizeOf object :=
            Json.sizeOf_member_lt (inner?_eq_some_iff.1 hinner).2.2.1
          exact ih (sizeOf part) (by omega) inner.2 part path rfl

/-- The narrower call comes to a report where the wider one does. -/
theorem exists_report (h : narrow.Narrows wide) {depth : Nat} {plan : Plan} {object : Json} {path : Path}
    {report : Report} (hreport : (wide.fields depth plan object path).result = .ok report) :
    ∃ other, (narrow.fields depth plan object path).result = .ok other :=
  exists_report_iff.2 ((exists_report_iff.1 ⟨report, hreport⟩).mono h.plans h.context h.allows (Nat.le_refl depth))

/-- Without a message from the wider call there is none from the narrower one, and the other way round. -/
theorem log_eq_nil_iff (h : narrow.Narrows wide) {depth : Nat} {plan : Plan} {object : Json} {path : Path}
    {report other : Report} (hreport : (wide.fields depth plan object path).result = .ok report)
    (hother : (narrow.fields depth plan object path).result = .ok other) :
    narrow.log plan object path = [] ↔ wide.log plan object path = [] := by
  rw [Call.log_eq_nil_iff hreport, Call.log_eq_nil_iff hother, h.plans, h.context]

/-! ### Where nothing is left out -/

/-- A field that is looked into by the wider call is looked into by the narrower one too if its own value has no
message. -/
theorem inner?_congr (h : narrow.Narrows wide) {f : PlannedField} {value object : Json}
    (hquiet : f.nested ≠ none → f.complaints wide.context value object = []) :
    narrow.inner? f value object = wide.inner? f value object := by
  cases hwide : wide.inner? f value object with
  | none =>
      cases hnarrow : narrow.inner? f value object with
      | none => rfl
      | some inner => exact hwide.symm.trans (h.inner?_eq hnarrow) |>.symm
  | some inner =>
      obtain ⟨nesting, target⟩ := inner
      obtain ⟨hfield, htarget, hthere, -⟩ := inner?_eq_some_iff.1 hwide
      have hsilent : f.complaints wide.context value object = [] := hquiet (by rw [hfield]; exact Option.some_ne_none _)
      refine inner?_eq_some_iff.2 ⟨hfield, h.plans ▸ htarget, hthere, ?_⟩
      rw [h.context, hsilent]
      cases narrow.policy <;> rfl

/-- **Nothing is left out** where no field with a nested schema has a message about its own value. -/
theorem log_eq_of_quiet (h : narrow.Narrows wide) {start : Plan} {value : Json}
    (hquiet : ∀ level plan object path, wide.Visits start value level plan object path →
      ∀ f ∈ plan.fields, f.nested ≠ none → f.complaints wide.context (object.member f.name) object = [])
    {level depth : Nat} {plan : Plan} {object : Json} {path : Path}
    (hvisit : wide.Visits start value level plan object path) (hdepth : level + depth = wide.maxDepth + 1)
    (hcompletes : wide.Completes depth plan object) :
    narrow.log plan object path = wide.log plan object path := by
  induction depth generalizing level plan object path with
  | zero => cases hcompletes
  | succ depth ih =>
      rw [log_eq, log_eq]
      refine List.flatMap_congr fun f hf => ?_
      obtain ⟨hdecides, hcontents⟩ := hcompletes f hf
      rw [fieldLog, fieldLog, h.context, h.inner?_congr (hquiet level plan object path hvisit f hf)]
      cases hinner : wide.inner? f (object.member f.name) object with
      | none => rfl
      | some inner =>
          obtain ⟨nesting, target⟩ := inner
          obtain ⟨hfield, htarget, hthere, hallows⟩ := inner?_eq_some_iff.1 hinner
          obtain ⟨other, hother, hparts⟩ := hcontents hallows nesting hfield hthere
          obtain rfl := Option.some.inj (htarget.symm.trans hother)
          refine congrArg _ ?_
          simp only [partsLog]
          cases hplaces : nesting.parts? (object.member f.name) (path.field f.name) with
          | none => exact h.notice_eq _ _
          | some parts =>
              refine List.flatMap_congr fun part hpart => ?_
              by_cases hobject : part.1.isObject
              · rw [if_pos hobject, if_pos hobject]
                have habort : f.abort? wide.context (object.member f.name) object (path.field f.name) = none :=
                  PlannedField.abort?_eq_none_iff.2 hdecides
                have hbelow := Nesting.forall_contents_iff.1 hparts parts hplaces part hpart hobject
                -- One level more and one less to go: the sum stays what it is.
                exact ih (.nested hvisit (by omega) hf habort hinner hplaces hpart hobject) (by omega) hbelow
              · rw [if_neg hobject, if_neg hobject]
                exact h.notice_eq _ _

end Narrows

end Call

end Attest

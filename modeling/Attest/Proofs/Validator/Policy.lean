import Attest.Proofs.Call.Policy
import Attest.Proofs.Validator.Satisfaction

/-!
The two policies agree on which values are valid. The one that leaves a value alone after a failure of its own field
may have less to say, and may come to a report where the other one aborts, but it never finds a value valid in which
the other one finds fault.
-/

namespace Attest.Validator

/-- The same validator with another policy. -/
def withPolicy (v : Validator) (policy : NestedPolicy) : Validator :=
  { v with settings := { v.settings with nestedPolicy := policy } }

/-- A call that leaves values alone after a failure looks into none that the other call does not look into. -/
theorem skip_narrows_always (v : Validator) (ctx : Context) :
    ((v.withPolicy .skipOnLocalFailure).call ctx).Narrows ((v.withPolicy .always).call ctx) where
  plans := rfl
  context := rfl
  allows _ _ := rfl

/-- **Agreement of the policies.** If a call that looks into everything comes to a report, then so does the same call
when it leaves a value alone after a failure of its field. Either both reports are empty or neither is; the latter
names no path that the former does not name, and for each path leaves out some messages and keeps the others in their
order. The reports are the same if no field with a nested schema, of all objects that the call comes to, has a message
about its own value. -/
theorem skip_agrees_with_always {v : Validator} {ctx : Context} {schema : String} {value : Json} {always : Report}
    (h : (v.withPolicy .always).report ctx schema value = .ok always) :
    ∃ plan skip, v.plans.get? schema = some plan ∧
      (v.withPolicy .skipOnLocalFailure).report ctx schema value = .ok skip ∧
      (skip = .empty ↔ always = .empty) ∧
      (∀ path ∈ skip.paths, path ∈ always.paths) ∧
      (∀ path, (skip.messages path).Sublist (always.messages path)) ∧
      ((∀ level inner object path, ((v.withPolicy .always).call ctx).Visits plan value level inner object path →
          ∀ f ∈ inner.fields, f.nested ≠ none → f.complaints ctx (object.member f.name) object = []) →
        skip = always) := by
  obtain ⟨plan, hplan, hresult⟩ := exists_plan_of_report h
  have hnarrows := v.skip_narrows_always ctx
  obtain ⟨skip, hskip⟩ := hnarrows.exists_report hresult
  have hreport : (v.withPolicy .skipOnLocalFailure).report ctx schema value = .ok skip := by
    rw [report, task_eq (show (v.withPolicy .skipOnLocalFailure).plans.get? schema = some plan from hplan)]
    exact hskip
  have hsublist := hnarrows.log_sublist plan value .root
  refine ⟨plan, skip, hplan, hreport, ?_⟩
  rw [Call.report_fields hskip, Call.report_fields hresult]
  refine ⟨?_, fun path hpath => ?_, fun path => ?_, fun hquiet => ?_⟩
  · rw [Log.report_eq_empty_iff, Log.report_eq_empty_iff]
    exact hnarrows.log_eq_nil_iff hresult hskip
  · rw [Log.report_paths] at hpath ⊢
    exact Log.mem_paths_of_sublist hsublist hpath
  · rw [Log.report_messages, Log.report_messages]
    exact Log.messages_sublist hsublist path
  · have hcompletes := Call.exists_report_iff.1 ⟨always, hresult⟩
    exact congrArg Log.report (hnarrows.log_eq_of_quiet hquiet .start (Nat.zero_add _) hcompletes)

/-- Parcels with a lid and at least two boxes, all of which have a label. -/
def parcels : Validator where
  plans := ⟨[
    ⟨"Parcel", [⟨"boxes", false, [.ofStep ⟨.minSize 2, none⟩ .builtIn], .empty, some ⟨"Box", true⟩⟩,
      ⟨"lid", true, [], .empty, some ⟨"Box", false⟩⟩], []⟩,
    ⟨"Box", [⟨"label", false, [.ofStep ⟨.notBlank, none⟩ .builtIn], .empty, none⟩], []⟩]⟩
  settings := .standard
  dispatcher := .unbounded

/-- A parcel with a single box, whose label is blank, and with a lid that has none. -/
def smallParcel : Json :=
  .object [("boxes", .array [.object [("label", .string " ")]]), ("lid", .object [])]

def smallParcelReport : Report where
  entries := [("boxes", ["min_size"]), ("boxes[0].label", ["not_blank"]), ("lid.label", ["not_null"])]

theorem skip_agrees_with_always_smallParcel :
    (parcels.withPolicy .always).report parcels.keysOnly "Parcel" smallParcel = .ok smallParcelReport ∧
      ∃ skip, (parcels.withPolicy .skipOnLocalFailure).report parcels.keysOnly "Parcel" smallParcel = .ok skip ∧
        skip ≠ .empty ∧ (∀ path ∈ skip.paths, path ∈ ["boxes", "boxes[0].label", "lid.label"]) ∧
        (skip.messages "lid.label").Sublist ["not_null"] := by
  have h : (parcels.withPolicy .always).report parcels.keysOnly "Parcel" smallParcel = .ok smallParcelReport := by
    decide +kernel
  obtain ⟨plan, skip, -, hskip, hempty, hpaths, hmessages, -⟩ := skip_agrees_with_always h
  refine ⟨h, skip, hskip, fun hnone => ?_, hpaths, hmessages "lid.label"⟩
  have hnothing := hempty.1 hnone
  cases hnothing

end Attest.Validator

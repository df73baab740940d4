import Attest.Proofs.Call.Satisfaction
import Attest.Proofs.Validator.Report

/-!
Validation is sound and complete: what comes back is the value itself exactly if the value keeps all that its schema
demands, whatever the policy, the limit on the depth and the checkpoints are.
-/

namespace Attest.Validator

theorem typedTask_eq [Validated α] {v : Validator} {ctx : Context} {a : α} {schema : String} {value : Json}
    (hschema : Validated.schema α = schema) (hvalue : Validated.toJson? a = some value) :
    v.typedTask ctx a = v.task ctx schema value := by
  simp only [typedTask, hvalue, hschema]

theorem validateJson_eq {v : Validator} {ctx : Context} {schema : String} {value : Json} {report : Report}
    (h : v.report ctx schema value = .ok report) :
    v.validateJson ctx schema value = .ok (.ofReport value report) := by
  change Outcome.ofResult value (v.report ctx schema value) = _
  rw [h]
  rfl

theorem validate_eq [Validated α] {v : Validator} {ctx : Context} {a : α} {schema : String} {value : Json}
    {report : Report} (hschema : Validated.schema α = schema) (hvalue : Validated.toJson? a = some value)
    (h : v.report ctx schema value = .ok report) : v.validate ctx a = .ok (.ofReport a report) := by
  rw [validate, typedTask_eq hschema hvalue]
  change Outcome.ofResult a (v.report ctx schema value) = _
  rw [h]
  rfl

theorem ofReport_of_ne_empty (a : α) {report : Report} (h : report ≠ .empty) :
    Outcome.ofReport a report = .failure report := by
  rw [Outcome.ofReport, if_neg (mt Report.isEmpty_iff.1 h)]

/-- The report of a call that comes to one is empty exactly if the value keeps its schema. -/
theorem report_eq_empty_iff {v : Validator} {ctx : Context} {schema : String} {plan : Plan} {value : Json}
    {report : Report} (hplan : v.plans.get? schema = some plan)
    (h : v.report ctx schema value = .ok report) :
    report = .empty ↔ v.plans.Satisfies ctx plan value := by
  obtain ⟨other, hother, hresult⟩ := exists_plan_of_report h
  obtain rfl := Option.some.inj (hplan.symm.trans hother)
  rw [Call.report_fields hresult, Log.report_eq_empty_iff]
  exact Call.log_eq_nil_iff hresult

/-- **Soundness and completeness.** Of a call that comes to a report, the report is empty if and only if the value
keeps its schema. Then every way of asking hands back the very value it was given; otherwise each of them gives
that report, which is not empty. -/
theorem answers_iff_satisfies {v : Validator} {ctx : Context} {schema : String} {value : Json} {report : Report}
    (h : v.report ctx schema value = .ok report) :
    ∃ plan, v.plans.get? schema = some plan ∧
      (report = .empty ↔ v.plans.Satisfies ctx plan value) ∧
      (v.plans.Satisfies ctx plan value →
        v.validateJson ctx schema value = .ok (.success value) ∧
        ∀ (α : Type) [Validated α] (a : α), Validated.schema α = schema → Validated.toJson? a = some value →
          v.validate ctx a = .ok (.success a) ∧ v.validateOrThrow ctx a = .ok a) ∧
      (¬v.plans.Satisfies ctx plan value →
        report ≠ .empty ∧ v.validateJson ctx schema value = .ok (.failure report) ∧
        ∀ (α : Type) [Validated α] (a : α), Validated.schema α = schema → Validated.toJson? a = some value →
          v.validate ctx a = .ok (.failure report) ∧ v.validateOrThrow ctx a = .error (.invalid report)) := by
  obtain ⟨plan, hplan, -⟩ := exists_plan_of_report h
  have hempty := report_eq_empty_iff hplan h
  refine ⟨plan, hplan, hempty, ?_, ?_⟩
  · intro hkeeps
    obtain rfl := hempty.2 hkeeps
    refine ⟨validateJson_eq h, fun α _ a hschema hvalue => ?_⟩
    have hvalidate := validate_eq hschema hvalue h
    refine ⟨hvalidate, ?_⟩
    rw [validateOrThrow, hvalidate]
    rfl
  · intro hbreaks
    have hreport : report ≠ .empty := mt hempty.1 hbreaks
    refine ⟨hreport, ?_, fun α _ a hschema hvalue => ?_⟩
    · rw [validateJson_eq h, ofReport_of_ne_empty value hreport]
    · have hvalidate := validate_eq hschema hvalue h
      rw [ofReport_of_ne_empty a hreport] at hvalidate
      refine ⟨hvalidate, ?_⟩
      rw [validateOrThrow, hvalidate]
      rfl

/-- An order with a note and with an item that is left out. -/
def plainOrder : Json :=
  .object [("items", .array [.object [("number", .number (.int 2))], .null]), ("note", .string "two of them")]

theorem answers_iff_satisfies_plainOrder :
    (orders .skipOnLocalFailure 1).report (orders .skipOnLocalFailure 1).keysOnly "Order" plainOrder = .ok .empty ∧
      ∃ plan, (orders .skipOnLocalFailure 1).plans.get? "Order" = some plan ∧
        (orders .skipOnLocalFailure 1).plans.Satisfies (orders .skipOnLocalFailure 1).keysOnly plan plainOrder ∧
        (orders .skipOnLocalFailure 1).validateJson (orders .skipOnLocalFailure 1).keysOnly "Order" plainOrder =
          .ok (.success plainOrder) := by
  have h : (orders .skipOnLocalFailure 1).report (orders .skipOnLocalFailure 1).keysOnly "Order" plainOrder =
      .ok .empty := by
    decide +kernel
  obtain ⟨plan, hplan, hempty, hkept, -⟩ := answers_iff_satisfies h
  exact ⟨h, plan, hplan, hempty.1 rfl, (hkept (hempty.1 rfl)).1⟩

end Attest.Validator

import Attest.Proofs.Call.Log
import Attest.Validator

/-!
The report of a validator, exactly: that of the log of the call, every path where the log first names it and with
all messages that the log has for it.
-/

namespace Attest.Validator

/-- A call on a schema that is there is the walk through the value from its root. -/
theorem task_eq {v : Validator} {ctx : Context} {schema : String} {plan : Plan}
    (hplan : v.plans.get? schema = some plan) (value : Json) :
    v.task ctx schema value = (v.call ctx).fields (v.settings.maxDepth + 1) plan value .root := by
  simp only [task, Call.task, call, hplan]

/-- A call that comes to a report has found its schema. -/
theorem exists_plan_of_report {v : Validator} {ctx : Context} {schema : String} {value : Json} {report : Report}
    (h : v.report ctx schema value = .ok report) :
    ∃ plan, v.plans.get? schema = some plan ∧
      ((v.call ctx).fields (v.settings.maxDepth + 1) plan value .root).result = .ok report := by
  cases hplan : v.plans.get? schema with
  | none => simp [Validator.report, task, Call.task, call, hplan] at h
  | some plan =>
      rw [Validator.report, task_eq hplan] at h
      exact ⟨plan, rfl, h⟩

/-- **The exact report.** Whatever the payload, the plans, the settings and the context, a call that comes to a
report comes to the log of the walk, grouped by path: the paths in the order in which they first appear, the
messages of each in the order of the log, and as many messages as the log has. -/
theorem report_eq_log {v : Validator} {ctx : Context} {schema : String} {value : Json} {report : Report}
    (h : v.report ctx schema value = .ok report) :
    ∃ plan log, v.plans.get? schema = some plan ∧ log = (v.call ctx).log plan value .root ∧
      report = Log.report log ∧ report.paths = Log.paths log ∧
      (∀ path, report.messages path = Log.messages log path) ∧ report.messageCount = log.length := by
  obtain ⟨plan, hplan, hresult⟩ := exists_plan_of_report h
  have hreport := Call.report_fields hresult
  refine ⟨plan, _, hplan, rfl, hreport, ?_, fun path => ?_, ?_⟩
  · rw [hreport, Log.report_paths]
  · rw [hreport, Log.report_messages]
  · rw [hreport, Log.report_messageCount]

/-- Orders with a note and a list of items, each of which has a number; an order whose items are no list, or whose
note is missing, is not looked into any further. -/
def orders (policy : NestedPolicy) (parallelism : Nat) : Validator where
  plans := ⟨[
    ⟨"Order", [⟨"items", false, [.ofStep ⟨.required, none⟩ .builtIn], .empty, some ⟨"Item", true⟩⟩,
      ⟨"note", false, [.ofStep ⟨.required, none⟩ .builtIn, .ofStep ⟨.notBlank, some "note.blank"⟩ .builtIn], .ofList [1], none⟩], []⟩,
    ⟨"Item", [⟨"number", false, [.ofStep ⟨.positive, none⟩ .builtIn, .ofStep ⟨.even, none⟩ .builtIn], .empty, none⟩], []⟩]⟩
  settings := { Settings.standard with nestedPolicy := policy }
  dispatcher := ⟨some parallelism⟩

/-- A context in which a message is the key itself. -/
def keysOnly (v : Validator) : Context :=
  (v.context (.fixed ⟨0, 0⟩)).withResolver fun key _ _ => .done key

def brokenOrder : Json :=
  .object [("items", .array [.null, .object [("number", .number (.int (-3)))], .bool true, .object []])]

def brokenOrderReport : Report where
  entries := [("items[1].number", ["positive", "even"]), ("items[2]", ["expected_object"]),
    ("items[3].number", ["not_null"]), ("note", ["not_null", "required"])]

theorem report_eq_log_brokenOrder :
    (orders .always 1).report (orders .always 1).keysOnly "Order" brokenOrder = .ok brokenOrderReport ∧
      ∃ plan log, (orders .always 1).plans.get? "Order" = some plan ∧
        log = ((orders .always 1).call (orders .always 1).keysOnly).log plan brokenOrder .root ∧
        brokenOrderReport = Log.report log ∧ brokenOrderReport.paths = Log.paths log ∧
        (∀ path, brokenOrderReport.messages path = Log.messages log path) ∧
        brokenOrderReport.messageCount = log.length := by
  have h : (orders .always 1).report (orders .always 1).keysOnly "Order" brokenOrder = .ok brokenOrderReport := by
    decide +kernel
  exact ⟨h, report_eq_log h⟩

end Attest.Validator

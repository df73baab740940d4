import Attest.Proofs.Report.Grouping
import Attest.Task.Result

/-!
When the parts of a task, done one after the other, come to a report, and to which. Tasks next to each other have a
report exactly when each of them has one.
-/

namespace Attest.Task

@[simp] theorem result_reported (report : Report) : (reported report).result = .ok report :=
  rfl

@[simp] theorem result_aborting (abort : Abort) : (aborting abort).result = .error abort :=
  rfl

@[simp] theorem result_telling (path : String) (message : Activity String) :
    (telling path message).result = .ok (Report.empty.push path message.answer) :=
  rfl

theorem result_nesting (before : Report) (nested : Task) :
    (nesting before nested).result = nested.result.map before.merge :=
  rfl

theorem result_all (tasks : List Task) :
    (all tasks).result = (results tasks).map fun reports => reports.foldl Report.merge .empty :=
  rfl

theorem result_field_of_error {path : String} {stage : Stage} {chain : Activity (Except Abort (List String))}
    {policy : NestedPolicy} {nested : Task} {abort : Abort} (h : chain.answer = .error abort) :
    (field path stage chain policy nested).result = .error abort := by
  rw [result, h]

theorem result_field_of_ok {path : String} {stage : Stage} {chain : Activity (Except Abort (List String))}
    {policy : NestedPolicy} {nested : Task} {messages : List String} (h : chain.answer = .ok messages) :
    (field path stage chain policy nested).result =
      if policy.allows (!messages.isEmpty) then nested.result.map (Report.empty.extend path messages).merge
      else .ok (Report.empty.extend path messages) := by
  rw [result, h]

/-! ### Tasks next to each other -/

@[simp] theorem results_nil : results [] = .ok [] :=
  rfl

theorem results_cons (t : Task) (ts : List Task) :
    results (t :: ts) = t.result.bind fun report => (results ts).map (report :: ·) := by
  rw [results]
  cases t.result with
  | error abort => rfl
  | ok report =>
      cases results ts <;> rfl

theorem results_eq_ok_iff {ts : List Task} {reports : List Report} :
    results ts = .ok reports ↔ List.Forall₂ (fun t report => t.result = .ok report) ts reports := by
  induction ts generalizing reports with
  | nil =>
      rw [results_nil, List.forall₂_nil_left_iff]
      exact ⟨fun h => (Except.ok.inj h).symm, fun h => by rw [h]⟩
  | cons t ts ih =>
      rw [results_cons, List.forall₂_cons_left_iff]
      constructor
      · intro h
        cases hresult : t.result with
        | error abort => simp [hresult, Except.bind] at h
        | ok report =>
            cases hresults : results ts with
            | error abort => simp [hresult, hresults, Except.bind, Except.map] at h
            | ok rest =>
                simp only [hresult, hresults, Except.bind, Except.map, Except.ok.injEq] at h
                exact ⟨report, rest, rfl, ih.1 hresults, h.symm⟩
      · rintro ⟨report, rest, hresult, hrest, rfl⟩
        rw [hresult, ih.2 hrest]
        rfl

theorem result_all_eq_ok_iff {ts : List Task} {report : Report} :
    (all ts).result = .ok report ↔
      ∃ reports, List.Forall₂ (fun t r => t.result = .ok r) ts reports ∧
        report = reports.foldl Report.merge .empty := by
  rw [result_all]
  constructor
  · intro h
    cases hresults : results ts with
    | error abort => simp [hresults, Except.map] at h
    | ok reports =>
        rw [hresults] at h
        exact ⟨reports, results_eq_ok_iff.1 hresults, (Except.ok.inj h).symm⟩
  · rintro ⟨reports, hreports, rfl⟩
    rw [results_eq_ok_iff.2 hreports]
    rfl

theorem exists_result_of_mem_all {ts : List Task} {t : Task} {report : Report}
    (h : (all ts).result = .ok report) (ht : t ∈ ts) : ∃ r, t.result = .ok r := by
  obtain ⟨reports, hreports, -⟩ := result_all_eq_ok_iff.1 h
  clear h
  induction hreports with
  | nil => cases ht
  | @cons u r ts _ hr _ ih =>
      rcases List.mem_cons.1 ht with rfl | ht
      · exact ⟨r, hr⟩
      · exact ih ht

theorem exists_result_all_iff {ts : List Task} :
    (∃ report, (all ts).result = .ok report) ↔ ∀ t ∈ ts, ∃ r, t.result = .ok r := by
  constructor
  · rintro ⟨report, h⟩ t ht
    exact exists_result_of_mem_all h ht
  · intro h
    have hreports : ∃ reports, List.Forall₂ (fun t r => t.result = .ok r) ts reports := by
      induction ts with
      | nil => exact ⟨[], .nil⟩
      | cons t ts ih =>
          obtain ⟨r, hr⟩ := h t List.mem_cons_self
          obtain ⟨reports, hreports⟩ := ih fun u hu => h u (List.mem_cons_of_mem t hu)
          exact ⟨r :: reports, .cons hr hreports⟩
    obtain ⟨reports, hreports⟩ := hreports
    exact ⟨_, result_all_eq_ok_iff.2 ⟨reports, hreports, rfl⟩⟩

/-- Tasks whose reports are those of logs come to the report of all the logs one after the other. -/
theorem report_all_of_logs {parts : List α} {task : α → Task} {logs : α → Log} {report : Report}
    (hlogs : ∀ part ∈ parts, ∀ r, (task part).result = .ok r → r = Log.report (logs part))
    (h : (all (parts.map task)).result = .ok report) : report = Log.report (parts.flatMap logs) := by
  obtain ⟨reports, hreports, rfl⟩ := result_all_eq_ok_iff.1 h
  have heq : reports = (parts.map logs).map Log.report := by
    rw [List.forall₂_map_left_iff] at hreports
    clear h
    induction hreports with
    | nil => rfl
    | @cons part r parts reports hr _ ih =>
        rw [hlogs part List.mem_cons_self r hr, ih fun p hp => hlogs p (List.mem_cons_of_mem _ hp)]
        rfl
  rw [heq, ← Log.report_nil, Log.report_flatten, List.nil_append, List.flatMap_def]

end Attest.Task

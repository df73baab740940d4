import Attest.Proofs.Report.Silence

/-!
Merging reports. A report that is built message by message is the report of a log, and to merge two reports is to
group their logs one after the other. So reports are merged as logs are joined: nothing is lost, the order is that of
the logs, and it makes no difference which of several reports are merged first.
-/

namespace Attest

namespace Report

/-- The reports that are built by adding messages and by merging, none of them read from a document. -/
def Built (r : Report) : Prop :=
  Obtainable (fun _ => False) r

/-- What is added to a report in one go: a message, or some messages of one path. -/
inductive Addition
  | push (path message : String)
  | extend (path : String) (messages : List String)

def add (r : Report) : Addition → Report
  | .push path message => r.push path message
  | .extend path messages => r.extend path messages

/-- The messages that are added, each with its path. -/
def Addition.log : Addition → Log
  | .push path message => [(path, message)]
  | .extend path messages => Log.single path messages

variable {a b c : Report}

/-! ### Reports of logs -/

theorem extend_report (log : Log) (path : String) (messages : List String) :
    log.report.extend path messages = (log ++ Log.single path messages).report := by
  rw [Log.report_append, Log.report_single]
  cases messages <;> rfl

theorem add_report (log : Log) (addition : Addition) :
    log.report.add addition = (log ++ addition.log).report := by
  cases addition with
  | push path message => exact extend_report log path [message]
  | extend path messages => exact extend_report log path messages

/-- What is added to the report of a log comes behind the log. -/
theorem foldl_add_report (log : Log) (additions : List Addition) :
    additions.foldl add log.report = Log.report (log ++ additions.flatMap Addition.log) := by
  induction additions generalizing log with
  | nil => simp
  | cons addition additions ih =>
      rw [List.foldl_cons, add_report, ih, List.flatMap_cons, List.append_assoc]

theorem Built.exists_log (h : a.Built) : ∃ log : Log, a = log.report := by
  refine h.keeps (P := fun r => ∃ log : Log, r = log.report) ⟨[], Log.report_nil.symm⟩ ?_ fun _ _ hread => hread.elim
  rintro _ path messages ⟨log, rfl⟩
  exact ⟨log ++ Log.single path messages, extend_report log path messages⟩

/-- A list of messages is grouped as a log is. -/
theorem ofList_eq_report (messages : List (String × String)) : ofList messages = Log.report messages := by
  have hadditions := foldl_add_report [] (messages.map fun entry => .push entry.1 entry.2)
  rw [List.foldl_map, List.nil_append, List.flatMap_map, Log.report_nil] at hadditions
  have hlog : messages.flatMap (fun entry => Addition.log (.push entry.1 entry.2)) = messages :=
    List.flatMap_singleton' messages
  rw [hlog] at hadditions
  exact hadditions

/-- **Merging is an ordered and lossless monoid** on the reports that are built. The paths of the second report that are
new come behind those of the first one, each path has the messages of the first report before those of the second, and
no message is lost. The empty report changes nothing on either side, and it does not matter how merges are grouped.
Messages that are added one by one or path by path end up grouped by path, the paths in the order in which they first
appear. -/
theorem merge_orderly (ha : a.Built) (hb : b.Built) (hc : c.Built) :
    ((a.merge b).paths = a.paths ++ b.paths.filter (· ∉ a.paths) ∧
      (∀ path, (a.merge b).messages path = a.messages path ++ b.messages path) ∧
      (a.merge b).messageCount = a.messageCount + b.messageCount) ∧
    (empty.merge a = a ∧ a.merge empty = a ∧ (a.merge b).merge c = a.merge (b.merge c)) ∧
    (∀ additions : List Addition, additions.foldl add a = a.merge (Log.report (additions.flatMap Addition.log))) ∧
    (∀ additions : List Addition, additions.foldl add empty = Log.report (additions.flatMap Addition.log)) ∧
      ∀ messages : List (String × String), ofList messages = Log.report messages := by
  obtain ⟨la, rfl⟩ := ha.exists_log
  obtain ⟨lb, rfl⟩ := hb.exists_log
  obtain ⟨lc, rfl⟩ := hc.exists_log
  refine ⟨⟨paths_merge _ lb.report_tidy, messages_merge _ lb.report_tidy, messageCount_merge _ _⟩, ⟨?_, rfl, ?_⟩,
    fun additions => ?_, fun additions => foldl_add_report [] additions, ofList_eq_report⟩
  · exact la.report_tidy.merge_empty
  · rw [← Log.report_append, ← Log.report_append, ← Log.report_append, ← Log.report_append, List.append_assoc]
  · rw [foldl_add_report, Log.report_append]

/-- Three reports each two of which share a path. -/
theorem merge_orderly_crossed :
    Built (push (push empty "b" "1") "a" "2") ∧ Built (extend (ofList [("c", "3"), ("b", "4")]) "d" []) ∧
      Built (extend empty "a" ["5", "6"]) ∧
      merge (merge (push (push empty "b" "1") "a" "2") (extend (ofList [("c", "3"), ("b", "4")]) "d" []))
          (extend empty "a" ["5", "6"]) = ⟨[("b", ["1", "4"]), ("a", ["2", "5", "6"]), ("c", ["3"])]⟩ ∧
      merge (push (push empty "b" "1") "a" "2")
          (merge (extend (ofList [("c", "3"), ("b", "4")]) "d" []) (extend empty "a" ["5", "6"])) =
        ⟨[("b", ["1", "4"]), ("a", ["2", "5", "6"]), ("c", ["3"])]⟩ := by
  have ha : Built (push (push empty "b" "1") "a" "2") := .push (.push .empty "b" "1") "a" "2"
  have hb : Built (extend (ofList [("c", "3"), ("b", "4")]) "d" []) := .extend (.ofList _) "d" []
  have hc : Built (extend empty "a" ["5", "6"]) := .extend .empty "a" ["5", "6"]
  refine ⟨ha, hb, hc, by decide, ?_⟩
  rw [← (merge_orderly ha hb hc).2.1.2.2]
  decide

end Report

end Attest

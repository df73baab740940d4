import Attest.Report
import Mathlib.Data.List.Nodup
import Mathlib.Data.List.Perm.Basic

/-!
Reports as groupings. A log is the flat list of the messages of a call, each with its path, in the order in which
they arose; its report names every path once, where the path first appears, with the messages of that path in the
order of the log.

A report without repeated paths is fixed by its paths and by the messages of each of them, and what `extend` and
`merge` do to these two is all that is ever needed of either. From it follows that reports of logs can be put
together piece by piece: the report of one log after another is the merge of their reports.
-/

namespace Attest

namespace Report

/-- The messages of a path, none for a path that the report does not name. -/
def messages (r : Report) (path : String) : List String :=
  (r.get? path).getD []

/-- No path stands twice and none is without a message. -/
structure Tidy (r : Report) : Prop where
  nodup : r.paths.Nodup
  nonempty : ∀ entry ∈ r.entries, entry.2 ≠ []

/-! ### What fixes a report -/

theorem lookup_cons_of_ne {p q : String} (h : q ≠ p) (ms : List String) (es : List (String × List String)) :
    ((p, ms) :: es).lookup q = es.lookup q := by
  rw [List.lookup_cons, beq_eq_false_iff_ne.2 h]

theorem entries_eq_map {es : List (String × List String)} (h : (es.map (·.1)).Nodup) :
    es = (es.map (·.1)).map fun path => (path, (es.lookup path).getD []) := by
  induction es with
  | nil => rfl
  | cons e es ih =>
      obtain ⟨p, ms⟩ := e
      obtain ⟨hp, hes⟩ := List.nodup_cons.1 h
      have hrest : (es.map (·.1)).map (fun path => (path, (((p, ms) :: es).lookup path).getD [])) =
          (es.map (·.1)).map fun path => (path, (es.lookup path).getD []) := by
        refine List.map_congr_left fun q hq => ?_
        have hne : q ≠ p := fun e => hp (e ▸ hq)
        rw [lookup_cons_of_ne hne]
      rw [List.map_cons, List.map_cons, hrest, ← ih hes, List.lookup_cons_self]
      rfl

theorem ext_of_nodup {r s : Report} (hr : r.paths.Nodup) (hs : s.paths.Nodup) (hpaths : r.paths = s.paths)
    (hmessages : ∀ path, r.messages path = s.messages path) : r = s := by
  have hentries : r.entries = s.entries := by
    calc
      r.entries = r.paths.map fun path => (path, r.messages path) := entries_eq_map hr
      _ = s.paths.map fun path => (path, s.messages path) := by simp only [hpaths, hmessages]
      _ = s.entries := (entries_eq_map hs).symm
  cases r
  exact congrArg Report.mk hentries

theorem isEmpty_iff {r : Report} : r.isEmpty = true ↔ r = empty := by
  obtain ⟨es⟩ := r
  cases es <;> simp [isEmpty, empty]

/-! ### Changing one entry -/

/-- Changes the messages of a path, which are none if it had no entry; a new entry is put at the end. -/
def updateEntry (path : String) (f : List String → List String) :
    List (String × List String) → List (String × List String)
  | [] => [(path, f [])]
  | (p, ms) :: rest => if p = path then (p, f ms) :: rest else (p, ms) :: updateEntry path f rest

section

variable (path q : String) (f : List String → List String) (es : List (String × List String))

theorem paths_updateEntry :
    (updateEntry path f es).map (·.1) = if path ∈ es.map (·.1) then es.map (·.1) else es.map (·.1) ++ [path] := by
  induction es with
  | nil => rfl
  | cons e es ih =>
      obtain ⟨p, ns⟩ := e
      by_cases h : p = path
      · simp [updateEntry, h]
      · have h' : ¬path = p := fun e => h e.symm
        simp only [updateEntry, h, if_false, List.map_cons, ih, List.mem_cons, h', false_or]
        split <;> rfl

theorem lookup_updateEntry :
    (updateEntry path f es).lookup q = if q = path then some (f ((es.lookup path).getD [])) else es.lookup q := by
  induction es with
  | nil =>
      by_cases h : q = path <;> simp [updateEntry, h]
  | cons e es ih =>
      obtain ⟨p, ns⟩ := e
      by_cases h : p = path
      · subst h
        by_cases hq : q = p
        · simp [updateEntry, hq]
        · simp [updateEntry, lookup_cons_of_ne hq, hq]
      · rw [updateEntry, if_neg h, lookup_cons_of_ne (Ne.symm h)]
        by_cases hq : q = p
        · subst hq
          simp [h]
        · rw [lookup_cons_of_ne hq, lookup_cons_of_ne hq, ih]

end

/-! ### Adding the messages of one path -/

theorem extendEntries_eq (path : String) (ms : List String) (es : List (String × List String)) :
    extendEntries path ms es = updateEntry path (· ++ ms) es := by
  induction es with
  | nil => rfl
  | cons e es ih => rw [extendEntries, updateEntry, ih]

@[simp] theorem extend_nil (r : Report) (path : String) : r.extend path [] = r := rfl

theorem extend_cons (r : Report) (path m : String) (ms : List String) :
    r.extend path (m :: ms) = ⟨extendEntries path (m :: ms) r.entries⟩ := rfl

theorem push_eq_extend (r : Report) (path message : String) : r.push path message = r.extend path [message] := rfl

theorem paths_extend (r : Report) (path : String) {ms : List String} (h : ms ≠ []) :
    (r.extend path ms).paths = if path ∈ r.paths then r.paths else r.paths ++ [path] := by
  obtain ⟨m, ms, rfl⟩ := List.exists_cons_of_ne_nil h
  rw [extend_cons, paths, paths, extendEntries_eq]
  exact paths_updateEntry path _ r.entries

theorem messages_extend (r : Report) (path q : String) (ms : List String) :
    (r.extend path ms).messages q = if q = path then r.messages path ++ ms else r.messages q := by
  cases ms with
  | nil =>
      by_cases h : q = path <;> simp [h]
  | cons m ms =>
      rw [extend_cons, messages, get?, extendEntries_eq, lookup_updateEntry]
      by_cases hq : q = path <;> simp [hq, messages, get?]

/-! ### Merging -/

/-- The entries of a list of messages by path, put into a report one after the other. -/
theorem foldl_extend_paths {es : List (String × List String)} (r : Report) (hnodup : (es.map (·.1)).Nodup)
    (hnonempty : ∀ e ∈ es, e.2 ≠ []) :
    (es.foldl (fun r (path, ms) => r.extend path ms) r).paths =
      r.paths ++ (es.map (·.1)).filter (· ∉ r.paths) := by
  induction es generalizing r with
  | nil => simp
  | cons e es ih =>
      obtain ⟨p, ms⟩ := e
      obtain ⟨hp, hes⟩ := List.nodup_cons.1 hnodup
      have hms : ms ≠ [] := hnonempty (p, ms) List.mem_cons_self
      rw [List.foldl_cons, ih (r.extend p ms) hes fun e he => hnonempty e (List.mem_cons_of_mem _ he),
        paths_extend r p hms, List.map_cons, List.filter_cons]
      by_cases h : p ∈ r.paths
      · simp [h]
      · -- The path is new, and stands in no later entry, so that keeping it apart changes nothing there.
        have hkeep : (es.map (·.1)).filter (· ∉ r.paths ++ [p]) = (es.map (·.1)).filter (· ∉ r.paths) := by
          refine List.filter_congr fun q hq => ?_
          have hne : q ≠ p := fun e => hp (e ▸ hq)
          simp [hne]
        simp only [h, if_false, hkeep]
        simp

theorem foldl_extend_messages {es : List (String × List String)} (r : Report) (hnodup : (es.map (·.1)).Nodup)
    (q : String) :
    (es.foldl (fun r (path, ms) => r.extend path ms) r).messages q =
      r.messages q ++ (es.lookup q).getD [] := by
  induction es generalizing r with
  | nil => simp
  | cons e es ih =>
      obtain ⟨p, ms⟩ := e
      obtain ⟨hp, hes⟩ := List.nodup_cons.1 hnodup
      rw [List.foldl_cons, ih (r.extend p ms) hes, messages_extend]
      by_cases h : q = p
      · subst h
        have habsent : es.lookup q = none := by
          rw [List.lookup_eq_none_iff]
          intro e he
          exact bne_iff_ne.2 fun hqe => hp (List.mem_map.2 ⟨e, he, hqe.symm⟩)
        simp [habsent]
      · rw [if_neg h, lookup_cons_of_ne h]

/-- The paths of a merge: those of the first report, then the new ones of the second. -/
theorem paths_merge (r : Report) {s : Report} (hs : s.Tidy) :
    (r.merge s).paths = r.paths ++ s.paths.filter (· ∉ r.paths) :=
  foldl_extend_paths r hs.nodup hs.nonempty

/-- The messages of a path in a merge: those of the first report, then those of the second. -/
theorem messages_merge (r : Report) {s : Report} (hs : s.Tidy) (path : String) :
    (r.merge s).messages path = r.messages path ++ s.messages path :=
  foldl_extend_messages r hs.nodup path

/-! ### Counting -/

theorem messageCount_extend (r : Report) (path : String) (ms : List String) :
    (r.extend path ms).messageCount = r.messageCount + ms.length := by
  cases ms with
  | nil => rfl
  | cons m ms =>
      obtain ⟨es⟩ := r
      simp only [extend_cons, messageCount]
      induction es with
      | nil => simp [extendEntries]
      | cons e es ih =>
          obtain ⟨p, ns⟩ := e
          by_cases h : p = path
          · simp only [extendEntries, h, if_true, List.map_cons, List.foldr_cons, List.length_append]
            omega
          · simp only [extendEntries, h, if_false, List.map_cons, List.foldr_cons, ih]
            omega

theorem messageCount_merge (r s : Report) : (r.merge s).messageCount = r.messageCount + s.messageCount := by
  obtain ⟨es⟩ := s
  rw [merge]
  induction es generalizing r with
  | nil => rfl
  | cons e es ih =>
      obtain ⟨p, ms⟩ := e
      have hrest : messageCount ⟨(p, ms) :: es⟩ = ms.length + messageCount ⟨es⟩ := by
        simp [messageCount]
      rw [List.foldl_cons, ih, messageCount_extend, hrest, Nat.add_assoc]

end Report

/-! ### Logs -/

/-- Messages, each with its path, in the order in which they arose. -/
abbrev Log := List (String × String)

namespace Log

/-- The messages of one path, all at that path. -/
def single (path : String) (messages : List String) : Log :=
  messages.map (path, ·)

/-- Every path once, where it first appears. -/
def paths (log : Log) : List String :=
  (log.map (·.1)).eraseDups

/-- The messages of a path, in their order. -/
def messages (log : Log) (path : String) : List String :=
  (log.filter (·.1 = path)).map (·.2)

/-- The messages grouped by path. -/
def report (log : Log) : Report :=
  ⟨log.paths.map fun path => (path, log.messages path)⟩

theorem length_filter_lt {p : String → Bool} (path : String) (paths : List String) :
    (paths.filter p).length < (path :: paths).length :=
  Nat.lt_succ_of_le (List.length_filter_le p paths)

theorem nodup_eraseDups : (paths : List String) → paths.eraseDups.Nodup
  | [] => List.nodup_nil
  | path :: paths => by
      have hlt := length_filter_lt (p := fun q => !q == path) path paths
      rw [List.eraseDups_cons]
      refine List.nodup_cons.2 ⟨?_, nodup_eraseDups _⟩
      simp
termination_by paths => paths.length
decreasing_by all_goals exact hlt

theorem eraseDups_filter (p : String → Bool) :
    (paths : List String) → (paths.filter p).eraseDups = paths.eraseDups.filter p
  | [] => rfl
  | path :: paths => by
      have hlt := length_filter_lt (p := fun q => !q == path) path paths
      rw [List.eraseDups_cons, List.filter_cons, List.filter_cons,
        ← eraseDups_filter p (paths.filter fun q => !q == path)]
      by_cases h : p path
      · rw [if_pos h, if_pos h, List.eraseDups_cons, List.filter_filter, List.filter_filter]
        simp only [Bool.and_comm]
      · rw [if_neg h, if_neg h, List.filter_filter]
        refine congrArg List.eraseDups (List.filter_congr fun q _ => ?_)
        by_cases hq : q = path
        · simp [hq, h]
        · simp [hq]
termination_by paths => paths.length
decreasing_by all_goals exact hlt

@[simp] theorem mem_paths {log : Log} {path : String} : path ∈ log.paths ↔ path ∈ log.map (·.1) :=
  List.mem_eraseDups

theorem paths_append (a b : Log) : (a ++ b).paths = a.paths ++ b.paths.filter (· ∉ a.paths) := by
  have hnew : (b.map (·.1)).removeAll (a.map (·.1)) = (b.map (·.1)).filter (· ∉ a.paths) := by
    refine List.filter_congr fun path _ => ?_
    simp
  rw [paths, List.map_append, List.eraseDups_append, hnew, eraseDups_filter]
  rfl

theorem messages_append (a b : Log) (path : String) :
    (a ++ b).messages path = a.messages path ++ b.messages path := by
  simp [messages]

theorem messages_eq_nil_iff {log : Log} {path : String} : log.messages path = [] ↔ path ∉ log.paths := by
  rw [messages, List.map_eq_nil_iff, List.filter_eq_nil_iff, mem_paths]
  constructor
  · intro h hpath
    obtain ⟨entry, hentry, rfl⟩ := List.mem_map.1 hpath
    simpa using h entry hentry
  · intro h entry hentry
    simpa using fun hpath : entry.1 = path => h (List.mem_map.2 ⟨entry, hentry, hpath⟩)

theorem report_paths (log : Log) : log.report.paths = log.paths := by
  simp [report, Report.paths, Function.comp_def]

theorem lookup_map_self (f : String → List String) (path : String) (paths : List String) :
    (paths.map fun p => (p, f p)).lookup path = if path ∈ paths then some (f path) else none := by
  induction paths with
  | nil => rfl
  | cons p paths ih =>
      by_cases h : path = p
      · subst h
        simp
      · rw [List.map_cons, Report.lookup_cons_of_ne h, ih]
        simp [h]

theorem report_messages (log : Log) (path : String) : log.report.messages path = log.messages path := by
  rw [Report.messages, Report.get?, report, lookup_map_self]
  by_cases h : path ∈ log.paths
  · simp [h]
  · simp [h, messages_eq_nil_iff.2 h]

theorem report_tidy (log : Log) : log.report.Tidy where
  nodup := by
    rw [report_paths]
    exact nodup_eraseDups _
  nonempty := by
    intro entry hentry
    obtain ⟨path, hpath, rfl⟩ := List.mem_map.1 hentry
    exact fun h => messages_eq_nil_iff.1 h hpath

/-- The report of one log after another is the merge of their reports. -/
theorem report_append (a b : Log) : (a ++ b).report = a.report.merge b.report := by
  -- Two reports with the same paths, each once, can only differ in the messages of a path.
  have hpaths : (a ++ b).report.paths = (a.report.merge b.report).paths := by
    rw [Report.paths_merge _ b.report_tidy, report_paths, report_paths, report_paths, paths_append]
  refine Report.ext_of_nodup (report_tidy _).nodup (hpaths ▸ (report_tidy _).nodup) hpaths fun path => ?_
  rw [Report.messages_merge _ b.report_tidy, report_messages, report_messages, report_messages,
    messages_append]

/-- The report of logs one after another, merged from the reports of each. -/
theorem report_flatten (logs : List Log) (log : Log) :
    (logs.map report).foldl Report.merge log.report = (log ++ logs.flatten).report := by
  induction logs generalizing log with
  | nil => simp
  | cons l logs ih => rw [List.map_cons, List.foldl_cons, ← report_append, ih, List.flatten_cons, List.append_assoc]

theorem report_nil : report [] = .empty := rfl

/-- The report of the logs of parts one after another. -/
theorem report_flatMap (parts : List α) (logs : α → Log) :
    report (parts.flatMap logs) = (parts.map fun part => (logs part).report).foldl Report.merge .empty := by
  have hflatten := report_flatten (parts.map logs) []
  rw [List.nil_append, List.map_map, report_nil] at hflatten
  rw [List.flatMap_def]
  exact hflatten.symm

theorem report_single (path : String) (messages : List String) :
    (single path messages).report = Report.empty.extend path messages := by
  cases messages with
  | nil => rfl
  | cons m ms =>
      have hpaths : (single path (m :: ms)).paths = [path] := by
        have hrest : (single path ms).map (·.1) = List.replicate ms.length path := by
          simp [single, Function.comp_def, List.map_const']
        have hfilter : (List.replicate ms.length path).filter (fun q => !q == path) = [] := by simp
        rw [paths, single, List.map_cons, List.map_cons, List.eraseDups_cons]
        change _ :: (((single path ms).map (·.1)).filter fun q => !q == path).eraseDups = _
        rw [hrest, hfilter]
        rfl
      have hmessages : (single path (m :: ms)).messages path = m :: ms := by
        simp [messages, single, Function.comp_def, List.filter_eq_self.2]
      rw [report, hpaths, List.map_singleton, hmessages]
      rfl

/-- No message of a log is lost in its report and none is there twice. -/
theorem report_messageCount (log : Log) : log.report.messageCount = log.length := by
  induction log with
  | nil => rfl
  | cons entry log ih =>
      obtain ⟨path, message⟩ := entry
      calc
        (report ((path, message) :: log)).messageCount =
            ((report (single path [message])).merge (report log)).messageCount := by
          rw [← report_append]
          rfl
        _ = 1 + log.length := by
          rw [Report.messageCount_merge, report_single, Report.messageCount_extend, ih]
          rfl
        _ = ((path, message) :: log).length := by rw [List.length_cons, Nat.add_comm]

theorem report_eq_empty_iff {log : Log} : log.report = .empty ↔ log = [] := by
  constructor
  · intro h
    have hpaths : log.paths = [] := by
      rw [← report_paths, h]
      rfl
    refine List.eq_nil_iff_forall_not_mem.2 fun entry hentry => ?_
    have hmem : entry.1 ∈ log.paths := mem_paths.2 (List.mem_map_of_mem hentry)
    simp [hpaths] at hmem
  · rintro rfl
    exact report_nil

end Log

end Attest

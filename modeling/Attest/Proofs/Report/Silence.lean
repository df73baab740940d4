import Attest.Outcome
import Attest.Proofs.Lists
import Attest.Proofs.Report.Document

/-!
Reports with a path that has no message.

What is pushed, added or merged never leaves a path without a message, and a report all of whose paths have one is at
one with itself: what it contains, counts and merges to agree. A document can name a path with an empty list, and the
report that is read from it keeps the path. Such reports are the only ones that can be had whose parts disagree.
-/

namespace Attest

namespace Report

/-- The reports that can be had by any calls, where documents among these are read. -/
inductive Obtainable (documents : String → Prop) : Report → Prop
  | empty : Obtainable documents .empty
  | push {r} (h : Obtainable documents r) (path message : String) : Obtainable documents (r.push path message)
  | extend {r} (h : Obtainable documents r) (path : String) (messages : List String) :
      Obtainable documents (r.extend path messages)
  | merge {r s} (hr : Obtainable documents r) (hs : Obtainable documents s) : Obtainable documents (r.merge s)
  | ofList (messages : List (String × String)) : Obtainable documents (.ofList messages)
  | read {text r} (htext : documents text) (h : ofDocument text = .ok r) : Obtainable documents r

/-- What a report says of itself agrees: the paths that it contains are those with a message, it is empty if it has no
message and has no more paths than messages, merging copies it, and it makes a failure if there is a message. -/
structure Consistent (r : Report) : Prop where
  contains_iff : ∀ path, r.contains path = true ↔ ∃ m ms, r.get? path = some (m :: ms)
  isEmpty_iff : r.isEmpty = true ↔ r.messageCount = 0
  size_le : r.size ≤ r.messageCount
  merge_empty : empty.merge r = r
  failure_iff : ∀ {α : Type} (a : α), Outcome.ofReport a r = .failure r ↔ 0 < r.messageCount

/-- No path is named without a message. -/
def Outspoken (r : Report) : Prop :=
  ∀ path, r.get? path ≠ some []

variable {documents : String → Prop} {r : Report}

/-! ### What all calls keep -/

/-- What holds of the empty report and of what is read, and is kept when messages are added, holds of all reports that
can be had: every other call adds messages one path after the other. -/
theorem Obtainable.keeps {P : Report → Prop} (h : Obtainable documents r) (hempty : P .empty)
    (hextend : ∀ r path messages, P r → P (r.extend path messages))
    (hread : ∀ text r, documents text → ofDocument text = .ok r → P r) : P r := by
  induction h with
  | empty => exact hempty
  | push _ path message ih => exact hextend _ path [message] ih
  | extend _ path messages ih => exact hextend _ path messages ih
  | merge _ _ ih _ => exact List.foldlRecOn _ _ ih fun r hr entry _ => hextend r entry.1 entry.2 hr
  | ofList messages => exact List.foldlRecOn _ _ hempty fun r hr entry _ => hextend r entry.1 [entry.2] hr
  | read htext h => exact hread _ _ htext h

theorem nodup_extend (h : r.paths.Nodup) (path : String) (messages : List String) :
    (r.extend path messages).paths.Nodup := by
  cases messages with
  | nil => exact h
  | cons m ms =>
      rw [paths_extend r path (List.cons_ne_nil m ms)]
      split
      next => exact h
      next hnew => exact List.nodup_append_comm.1 (List.nodup_cons.2 ⟨hnew, h⟩)

theorem outspoken_extend (h : r.Outspoken) (path : String) (messages : List String) :
    (r.extend path messages).Outspoken := by
  cases messages with
  | nil => exact h
  | cons m ms =>
      intro q
      rw [extend_cons, get?, extendEntries_eq, lookup_updateEntry]
      split
      next => simp
      next => exact h q

theorem nodup_of_ofDocument {text : String} {r : Report} (h : ofDocument text = .ok r) : r.paths.Nodup := by
  obtain ⟨hvalue, -⟩ := Decoder.decodeText_eq_ok_iff.1 h
  obtain ⟨members, -, hr⟩ := Fault.bind_eq_ok_iff.1 hvalue
  obtain rfl := Except.ok.inj hr
  rw [paths, ← gather, paths_gather]
  exact Log.nodup_eraseDups _

theorem Obtainable.nodup (h : Obtainable documents r) : r.paths.Nodup :=
  h.keeps (P := fun r => r.paths.Nodup) List.nodup_nil (fun _ path messages hr => nodup_extend hr path messages)
    fun _ _ _ hread => nodup_of_ofDocument hread

/-! ### What having messages gives -/

theorem get?_of_mem (hnodup : r.paths.Nodup) {entry : String × List String} (h : entry ∈ r.entries) :
    r.get? entry.1 = some entry.2 :=
  (lookup_eq_some_iff_mem hnodup).2 h

theorem Outspoken.tidy (h : r.Outspoken) (hnodup : r.paths.Nodup) : r.Tidy where
  nodup := hnodup
  nonempty entry hentry hnil := h entry.1 (by rw [get?_of_mem hnodup hentry, hnil])

theorem Tidy.size_le (h : r.Tidy) : r.size ≤ r.messageCount := by
  obtain ⟨es⟩ := r
  have hnonempty : ∀ e ∈ es, e.2 ≠ [] := h.nonempty
  rw [size, messageCount]
  clear h
  induction es with
  | nil => exact Nat.le_refl 0
  | cons e es ih =>
      obtain ⟨he, hes⟩ := List.forall_mem_cons.1 hnonempty
      have hpos := List.length_pos_iff.2 he
      have hrest := ih hes
      simp only [List.length_cons, List.map_cons, List.foldr_cons] at hrest ⊢
      omega

theorem Tidy.merge_empty (h : r.Tidy) : empty.merge r = r := by
  have hpaths : (empty.merge r).paths = r.paths := by
    rw [paths_merge empty h]
    simp [paths, empty]
  refine ext_of_nodup (hpaths ▸ h.nodup) h.nodup hpaths fun path => ?_
  rw [messages_merge empty h]
  rfl

theorem Tidy.isEmpty_iff (h : r.Tidy) : r.isEmpty = true ↔ r.messageCount = 0 := by
  rw [Report.isEmpty_iff]
  constructor
  · rintro rfl
    rfl
  · intro hcount
    have hsize : r.size = 0 := Nat.le_zero.1 (hcount ▸ h.size_le)
    rw [← Report.isEmpty_iff, Report.isEmpty, List.isEmpty_iff_length_eq_zero]
    exact hsize

theorem ofReport_eq_failure_iff {α : Type} (a : α) (r : Report) :
    Outcome.ofReport a r = .failure r ↔ r.isEmpty = false := by
  rw [Outcome.ofReport]
  cases r.isEmpty <;> simp

theorem Outspoken.consistent (h : r.Outspoken) (hnodup : r.paths.Nodup) : r.Consistent where
  contains_iff path := by
    rw [contains]
    cases hget : r.get? path with
    | none => simp
    | some messages =>
        cases messages with
        | nil => exact absurd hget (h path)
        | cons m ms => simp
  isEmpty_iff := (h.tidy hnodup).isEmpty_iff
  size_le := (h.tidy hnodup).size_le
  merge_empty := (h.tidy hnodup).merge_empty
  failure_iff a := by
    rw [ofReport_eq_failure_iff, Nat.pos_iff_ne_zero, ne_eq, ← (h.tidy hnodup).isEmpty_iff, Bool.not_eq_true]

theorem Consistent.outspoken (h : r.Consistent) : r.Outspoken := by
  intro path hget
  obtain ⟨m, ms, hsome⟩ := (h.contains_iff path).1 (by rw [contains, hget]; rfl)
  rw [hget] at hsome
  cases hsome

/-- **Reports are consistent unless a path of theirs is silent.** That is so of each report that can be had. All of
them are consistent just if no document that is read gives a path without a message. -/
theorem consistent_unless_silent (documents : String → Prop) :
    (∀ r, Obtainable documents r → (r.Consistent ↔ r.Outspoken)) ∧
      ((∀ r, Obtainable documents r → r.Consistent) ↔
        ∀ text r, documents text → ofDocument text = .ok r → r.Outspoken) := by
  have hiff (r) (h : Obtainable documents r) : r.Consistent ↔ r.Outspoken :=
    ⟨Consistent.outspoken, fun houtspoken => houtspoken.consistent h.nodup⟩
  refine ⟨hiff, ?_, ?_⟩
  · intro h text r htext hread
    exact (h r (.read htext hread)).outspoken
  · intro h r hr
    have hempty : empty.Outspoken := fun _ hget => nomatch hget
    exact (hiff r hr).2 (hr.keeps hempty (fun _ path messages hr => outspoken_extend hr path messages) h)

/-- Where the only document that is read has messages, so has every report. -/
theorem consistent_unless_silent_onlySpoken :
    Obtainable (· = document ⟨[("a", ["x"])]⟩) (merge (push empty "b" "y") ⟨[("a", ["x"])]⟩) ∧
      Consistent (merge (push empty "b" "y") ⟨[("a", ["x"])]⟩) := by
  have hread : ofDocument (document ⟨[("a", ["x"])]⟩) = .ok ⟨[("a", ["x"])]⟩ := read_document (by decide)
  have hobtainable : Obtainable (· = document ⟨[("a", ["x"])]⟩) (merge (push empty "b" "y") ⟨[("a", ["x"])]⟩) :=
    .merge (.push .empty "b" "y") (.read rfl hread)
  refine ⟨hobtainable, (consistent_unless_silent _).2.2 ?_ _ hobtainable⟩
  rintro _ r rfl hr path
  obtain rfl := Except.ok.inj (hread.symm.trans hr)
  rw [get?, List.lookup_cons]
  cases path == "a" <;> simp

/-- A document may name a path and give it no message. -/
theorem silent_path_read :
    ∃ r, ofDocument "\x7b\"a\":[]\x7d" = .ok r ∧ Obtainable (fun _ => True) r ∧
      r.contains "a" = true ∧ r.get? "a" = some [] ∧ r.isEmpty = false ∧ r.messageCount = 0 ∧
        ¬r.size ≤ r.messageCount ∧ empty.merge r ≠ r ∧ Outcome.ofReport () r = .failure r ∧ ¬r.Consistent := by
  have htext : document ⟨[("a", [])]⟩ = "\x7b\"a\":[]\x7d" := by decide
  have hread : ofDocument (document ⟨[("a", [])]⟩) = .ok ⟨[("a", [])]⟩ := read_document (by decide)
  refine ⟨⟨[("a", [])]⟩, htext ▸ hread, .read trivial hread, rfl, rfl, rfl, rfl, by decide, by decide, rfl, ?_⟩
  exact fun h => h.outspoken "a" rfl

end Report

end Attest

import Attest.Proofs.Report.Grouping

/-!
Reports without their texts. A muted report has the same paths, and as many messages for each of them, but no message
says anything. Adding and merging look at paths and at whether there are messages, never at what they say; so it makes
no difference whether reports are muted before they are put together or after.
-/

namespace Attest

/-- As many messages, none of which says anything. -/
def hush (messages : List String) : List String :=
  messages.map fun _ => ""

theorem hush_append (ms ns : List String) : hush (ms ++ ns) = hush ms ++ hush ns :=
  List.map_append

theorem hush_eq_iff {ms ns : List String} : hush ms = hush ns ↔ ms.length = ns.length := by
  rw [hush, hush, List.map_const', List.map_const', List.replicate_inj]
  simp

theorem isEmpty_hush (ms : List String) : (hush ms).isEmpty = ms.isEmpty :=
  List.isEmpty_map

namespace Report

/-- The report with nothing said in it. -/
def mute (r : Report) : Report :=
  ⟨r.entries.map fun (path, messages) => (path, hush messages)⟩

theorem mute_extend (r : Report) (path : String) (ms : List String) :
    (r.extend path ms).mute = r.mute.extend path (hush ms) := by
  have hentries (es : List (String × List String)) :
      (extendEntries path ms es).map (fun (path, messages) => (path, hush messages)) =
        extendEntries path (hush ms) (es.map fun (path, messages) => (path, hush messages)) := by
    induction es with
    | nil => rfl
    | cons e es ih =>
        obtain ⟨p, ns⟩ := e
        by_cases h : p = path
        · simp [extendEntries, h, hush_append]
        · simp [extendEntries, h, ih]
  rw [extend, extend, isEmpty_hush]
  by_cases h : ms.isEmpty
  · rw [if_pos h, if_pos h]
  · rw [if_neg h, if_neg h]
    exact congrArg Report.mk (hentries r.entries)

theorem mute_push (r : Report) (path message : String) : (r.push path message).mute = r.mute.push path "" :=
  r.mute_extend path [message]

/-- **Merging and muting can be done in either order.** -/
theorem mute_merge (r s : Report) : (r.merge s).mute = r.mute.merge s.mute := by
  obtain ⟨es⟩ := s
  simp only [merge, mute]
  induction es generalizing r with
  | nil => rfl
  | cons e es ih =>
      obtain ⟨path, ms⟩ := e
      rw [List.foldl_cons, List.map_cons, List.foldl_cons, ih (r.extend path ms)]
      exact congrArg (fun start => List.foldl _ start _) (r.mute_extend path ms)

theorem mute_foldl_merge (reports : List Report) (r : Report) :
    (reports.foldl merge r).mute = (reports.map mute).foldl merge r.mute := by
  induction reports generalizing r with
  | nil => rfl
  | cons s reports ih => rw [List.foldl_cons, ih, mute_merge, List.map_cons, List.foldl_cons]

theorem paths_mute (r : Report) : r.mute.paths = r.paths := by
  rw [paths, mute, List.map_map]
  rfl

theorem messages_mute (r : Report) (path : String) : r.mute.messages path = hush (r.messages path) := by
  obtain ⟨es⟩ := r
  simp only [messages, get?, mute]
  induction es with
  | nil => rfl
  | cons e es ih =>
      obtain ⟨p, ms⟩ := e
      by_cases h : path = p
      · subst h
        simp
      · rw [List.map_cons, lookup_cons_of_ne h, lookup_cons_of_ne h, ih]

/-- The two reports differ in nothing but what their messages say: they have the same paths in the same order, and as
many messages for each of them. -/
structure SameShape (r s : Report) : Prop where
  paths : r.paths = s.paths
  counts : ∀ path, (r.messages path).length = (s.messages path).length

theorem sameShape_of_mute {r s : Report} (h : r.mute = s.mute) : r.SameShape s where
  paths := by rw [← r.paths_mute, h, s.paths_mute]
  counts path := hush_eq_iff.1 (by rw [← messages_mute, h, messages_mute])

end Report

end Attest

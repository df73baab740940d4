import Attest.Path
import Attest.Proofs.Report.Grouping

/-!
Reports at another place. A report that was made at the root of a value says the same of that value inside another
one, with the place of the value before each path.

Paths that differ still differ with the same place before them. So it makes no difference whether the messages are
grouped first and then moved, or the other way round.
-/

namespace Attest

namespace Log

/-- The same messages in the same order, each at another path. -/
def rename (g : String → String) (log : Log) : Log :=
  log.map fun (path, message) => (g path, message)

end Log

/-- The same entries in the same order, each at another path. -/
def Report.rename (g : String → String) (r : Report) : Report :=
  ⟨r.entries.map fun (path, messages) => (g path, messages)⟩

namespace Path

/-- A path as it is written inside the value at `place`. -/
def inside (place : Path) (path : String) : String :=
  place.text ++ "." ++ path

theorem inside_injective (place : Path) : Function.Injective place.inside := fun _ _ h =>
  (String.append_right_inj (place.text ++ ".")).1 h

/-- The location inside the value at `place` that is `path` when the value stands by itself. -/
def under (place path : Path) : Path :=
  if path.isRoot then place else ⟨place.inside path.text⟩

variable {place path : Path} {name : String}

@[simp] theorem under_root (place : Path) : place.under .root = place := rfl

theorem text_under (hpath : path.isRoot = false) : (place.under path).text = place.inside path.text := by
  rw [under, hpath, if_neg Bool.false_ne_true]

theorem isRoot_eq_false_iff : path.isRoot = false ↔ path.text ≠ "" := by
  rw [isRoot, ← Bool.not_eq_true, String.isEmpty_iff]

theorem isRoot_field (hname : name ≠ "") (path : Path) : (path.field name).isRoot = false := by
  rw [isRoot_eq_false_iff, field]
  split
  · exact hname
  · simp

theorem isRoot_index (path : Path) (position : Nat) : (path.index position).isRoot = false := by
  rw [isRoot_eq_false_iff, index]
  simp

theorem inside_ne_empty (place : Path) (path : String) : place.inside path ≠ "" := by
  simp [inside]

/-- Going to a field and moving can be done in either order. -/
theorem field_under (hplace : place.isRoot = false) (hname : name ≠ "") (path : Path) :
    (place.under path).field name = place.under (path.field name) := by
  have hmoved : (place.under path).isRoot = false := by
    rw [under]
    split
    · exact hplace
    · exact isRoot_eq_false_iff.2 (inside_ne_empty place _)
  rw [field, hmoved, if_neg Bool.false_ne_true, under, under, isRoot_field hname, if_neg Bool.false_ne_true, field]
  by_cases hpath : path.isRoot
  · rw [if_pos hpath, if_pos hpath]
    rfl
  · rw [if_neg hpath, if_neg hpath]
    simp only [inside, String.append_assoc]

/-- Below the root, going to an element and moving can be done in either order. -/
theorem index_under (hpath : path.isRoot = false) (position : Nat) :
    (place.under path).index position = place.under (path.index position) := by
  rw [index, text_under hpath, under, isRoot_index, if_neg Bool.false_ne_true, index]
  simp only [inside, String.append_assoc]

end Path

/-- The report on a value that stands at a place. -/
def Report.under (place : Path) (r : Report) : Report :=
  r.rename place.inside

namespace Log

variable {g : String → String}

theorem eraseDups_map (hg : Function.Injective g) :
    (paths : List String) → (paths.map g).eraseDups = paths.eraseDups.map g
  | [] => rfl
  | path :: paths => by
      have hlt := length_filter_lt (p := fun q => !q == path) path paths
      have hfilter : (paths.map g).filter (fun q => !q == g path) = (paths.filter fun q => !q == path).map g := by
        rw [List.filter_map]
        refine congrArg (List.map g) (List.filter_congr fun q _ => ?_)
        simp [hg.eq_iff]
      rw [List.map_cons, List.eraseDups_cons, List.eraseDups_cons, List.map_cons, hfilter, eraseDups_map hg]
termination_by paths => paths.length
decreasing_by exact hlt

theorem paths_rename (hg : Function.Injective g) (log : Log) : (log.rename g).paths = log.paths.map g := by
  rw [paths, paths, ← eraseDups_map hg, rename, List.map_map, List.map_map]
  rfl

theorem messages_rename (hg : Function.Injective g) (log : Log) (path : String) :
    (log.rename g).messages (g path) = log.messages path := by
  rw [messages, messages, rename, List.filter_map, List.map_map]
  have hfilter : log.filter ((fun entry => decide (entry.1 = g path)) ∘ fun (p, m) => (g p, m)) =
      log.filter fun entry => decide (entry.1 = path) :=
    List.filter_congr fun entry _ => by simp [hg.eq_iff]
  rw [hfilter]
  rfl

/-- **Grouping and renaming can be done in either order** when no two paths are given the same name. -/
theorem report_rename (hg : Function.Injective g) (log : Log) : (log.rename g).report = log.report.rename g := by
  simp only [report, Report.rename, paths_rename hg, List.map_map, Function.comp_def, messages_rename hg]

@[simp] theorem rename_append (a b : Log) : (a ++ b).rename g = a.rename g ++ b.rename g :=
  List.map_append

theorem rename_single (path : String) (messages : List String) :
    (single path messages).rename g = single (g path) messages := by
  simp [rename, single]

theorem rename_flatMap (parts : List α) (logs : α → Log) :
    Log.rename g (parts.flatMap logs) = parts.flatMap fun part => (logs part).rename g :=
  List.map_flatMap

end Log

end Attest

import Attest.Proofs.Task.Result
import Attest.Task.Poll
import Mathlib.Logic.Relation

/-!
The single steps of a task. A step is taken by one part of the task, any part that can move: it comes to the gate or
is called there, goes on with an activity up to the next note or pause, ends its chain and gives the permit back,
hands on what is nested in it, or, next to others, ends them all because one of them aborts.

Nothing is said about the order of the steps, so that any way of polling is one way through them. What a step
preserves is therefore preserved under every schedule: a step never changes whether a task comes to a report when
its parts are done one after the other, nor to which, and every abort that is still ahead was ahead before.
-/

namespace Attest

namespace Activity

/-- One note is made or one pause is over. -/
inductive Step : Activity α → Activity α → Prop
  | note (line : String) (rest : Activity α) : Step (.note line rest) rest
  | pause (rest : Activity α) : Step (.pause rest) rest

theorem Step.answer_eq {x y : Activity α} (h : x.Step y) : x.answer = y.answer := by
  cases h with
  | note line rest => rfl
  | pause rest => rfl

end Activity

namespace Task

mutual

/-- Where the fields of a task stand that have not ended their chains. -/
def stages : Task → List Stage
  | .field _ stage _ _ _ => [stage]
  | .nesting _ nested => stages nested
  | .all tasks => stagesAll tasks
  | _ => []
termination_by structural t => t

def stagesAll : List Task → List Stage
  | [] => []
  | t :: ts => stages t ++ stagesAll ts
termination_by structural ts => ts

end

/-- The gate after fields have gone away from it, one after the other. -/
def leave (stages : List Stage) (g : Gate) : Gate :=
  stages.foldl (fun g stage => stage.drop g) g

/-- A step of one part of a task. Where one of several aborts the others are dropped in any order. -/
inductive Step : Task → Gate → Task → Gate → Prop
  | tell {path message rest g} (h : message.Step rest) : Step (.telling path message) g (.telling path rest) g
  | told {path text g} : Step (.telling path (.done text)) g (.reported (Report.empty.push path text)) g
  | knock {path stage stage' chain policy nested g g'} (h : stage.advance g = (stage', g')) (hmoved : stage' ≠ stage) :
      Step (.field path stage chain policy nested) g (.field path stage' chain policy nested) g'
  | walk {path chain rest policy nested g} (h : chain.Step rest) :
      Step (.field path .holding chain policy nested) g (.field path .holding rest policy nested) g
  | fail {path abort policy nested g} :
      Step (.field path .holding (.done (.error abort)) policy nested) g (.aborting abort) g.release
  | enter {path messages policy nested g} (h : policy.allows (!messages.isEmpty) = true) :
      Step (.field path .holding (.done (.ok messages)) policy nested) g
        (.nesting (Report.empty.extend path messages) nested) g.release
  | skip {path messages policy nested g} (h : policy.allows (!messages.isEmpty) = false) :
      Step (.field path .holding (.done (.ok messages)) policy nested) g
        (.reported (Report.empty.extend path messages)) g.release
  | inner {before nested nested' g g'} (h : Step nested g nested' g') :
      Step (.nesting before nested) g (.nesting before nested') g'
  | joined {before report g} : Step (.nesting before (.reported report)) g (.reported (before.merge report)) g
  | passed {before abort g} : Step (.nesting before (.aborting abort)) g (.aborting abort) g
  | part {before t t' after g g'} (h : Step t g t' g') :
      Step (.all (before ++ t :: after)) g (.all (before ++ t' :: after)) g'
  | gathered {reports : List Report} {g} :
      Step (.all (reports.map .reported)) g (.reported (reports.foldl Report.merge .empty)) g
  | collapsed {before abort after order g} (h : order.Perm (stagesAll (before ++ after))) :
      Step (.all (before ++ .aborting abort :: after)) g (.aborting abort) (leave order g)

/-! ### What a step preserves -/

theorem results_reported (reports : List Report) : results (reports.map .reported) = .ok reports := by
  rw [results_eq_ok_iff, List.forall₂_map_left_iff]
  simp

/-- Of tasks next to each other, one may be put in the place of another that comes to the same reports. -/
theorem result_all_congr {before after : List Task} {t t' : Task} {report : Report}
    (h : ∀ r, t'.result = .ok r ↔ t.result = .ok r) :
    (all (before ++ t' :: after)).result = .ok report ↔ (all (before ++ t :: after)).result = .ok report := by
  have hforall (reports : List Report) :
      List.Forall₂ (fun t r => t.result = .ok r) (before ++ t' :: after) reports ↔
        List.Forall₂ (fun t r => t.result = .ok r) (before ++ t :: after) reports := by
    induction before generalizing reports with
    | nil => simp only [List.nil_append, List.forall₂_cons_left_iff, h]
    | cons u before ih => simp only [List.cons_append, List.forall₂_cons_left_iff, ih]
  simp only [result_all_eq_ok_iff, hforall]

theorem result_nesting_eq_ok_iff {before report : Report} {nested : Task} :
    (nesting before nested).result = .ok report ↔ ∃ r, nested.result = .ok r ∧ before.merge r = report := by
  rw [result_nesting]
  cases nested.result <;> simp [Except.map]

/-- **A step changes no report.** Done one after the other, the parts of a task come to the same report after a step
as before it, or to none in both cases. -/
theorem Step.result_iff {t t' : Task} {g g' : Gate} (h : Step t g t' g') (report : Report) :
    t'.result = .ok report ↔ t.result = .ok report := by
  induction h generalizing report with
  | tell h => rw [result_telling, result_telling, h.answer_eq]
  | told => rw [result_telling, result_reported, Activity.answer_done]
  | knock => rw [result, result]
  | walk h => rw [result, result, h.answer_eq]
  | @fail path abort policy nested g =>
      have hchain : (Activity.done (Except.error abort : Except Abort (List String))).answer = .error abort := rfl
      rw [result_aborting, result_field_of_error hchain]
  | @enter path messages policy nested g h =>
      have hchain : (Activity.done (Except.ok messages : Except Abort (List String))).answer = .ok messages := rfl
      rw [result_nesting, result_field_of_ok hchain, if_pos h]
  | @skip path messages policy nested g h =>
      have hchain : (Activity.done (Except.ok messages : Except Abort (List String))).answer = .ok messages := rfl
      rw [result_reported, result_field_of_ok hchain, h, if_neg Bool.false_ne_true]
  | inner _ ih => simp only [result_nesting_eq_ok_iff, ih]
  | joined => rw [result_nesting, result_reported, result_reported, Except.map]
  | passed => rw [result_nesting, result_aborting, Except.map]
  | part _ ih => exact result_all_congr ih
  | gathered => rw [result_all, results_reported, result_reported, Except.map]
  | @collapsed before abort after order g h =>
      -- The part that aborts had no report before, whatever became of the parts that are dropped.
      rw [result_aborting]
      refine iff_of_false (fun h => by cases h) fun h => ?_
      obtain ⟨r, hr⟩ := exists_result_of_mem_all h (List.mem_append_right before List.mem_cons_self)
      rw [result_aborting] at hr
      cases hr

/-- The aborts that may be ahead of a task: one for every chain that may be come to and fails, and one for every
part that aborts as it stands. -/
inductive Aborts : Task → Abort → Prop
  | aborting (abort : Abort) : Aborts (.aborting abort) abort
  | chain {path stage chain policy nested abort} (h : chain.answer = .error abort) :
      Aborts (.field path stage chain policy nested) abort
  | inner {path stage chain policy nested messages abort} (h : chain.answer = .ok messages)
      (hallows : policy.allows (!messages.isEmpty) = true) (hnested : Aborts nested abort) :
      Aborts (.field path stage chain policy nested) abort
  | nesting {before nested abort} (h : Aborts nested abort) : Aborts (.nesting before nested) abort
  | part {tasks t abort} (ht : t ∈ tasks) (h : Aborts t abort) : Aborts (.all tasks) abort

/-- **A step raises nothing new.** -/
theorem Step.aborts {t t' : Task} {g g' : Gate} {abort : Abort} (h : Step t g t' g') (habort : t'.Aborts abort) :
    t.Aborts abort := by
  induction h with
  | tell | told | skip | joined | gathered => cases habort
  | knock =>
      cases habort with
      | chain h => exact .chain h
      | inner h hallows hnested => exact .inner h hallows hnested
  | walk hstep =>
      cases habort with
      | chain h => exact .chain (hstep.answer_eq.trans h)
      | inner h hallows hnested => exact .inner (hstep.answer_eq.trans h) hallows hnested
  | fail =>
      cases habort with
      | aborting => exact .chain rfl
  | enter hallows =>
      cases habort with
      | nesting hnested => exact .inner rfl hallows hnested
  | inner _ ih =>
      cases habort with
      | nesting hnested => exact .nesting (ih hnested)
  | passed =>
      cases habort with
      | aborting => exact .nesting (.aborting _)
  | @part before u u' after g g' _ ih =>
      cases habort with
      | part hmem h =>
          rcases List.mem_append.1 hmem with hbefore | hrest
          · exact .part (List.mem_append_left _ hbefore) h
          · rcases List.mem_cons.1 hrest with rfl | hafter
            · exact .part (List.mem_append_right _ List.mem_cons_self) (ih h)
            · exact .part (List.mem_append_right _ (List.mem_cons_of_mem _ hafter)) h
  | @collapsed before a after order g _ =>
      cases habort with
      | aborting => exact .part (List.mem_append_right before List.mem_cons_self) (.aborting _)

end Task

end Attest

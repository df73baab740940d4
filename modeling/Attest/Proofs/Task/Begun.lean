import Attest.Call
import Attest.Proofs.Interleaving.Step
import Mathlib.Data.Set.List

/-!
How far a task has been begun. What is nested in a field is not touched before the field has ended its chain, and
then the field is no longer at the gate: so no part of a task waits for another part of the same branch, and what a
field holds at the gate is never more than the one permit of its own chain.

A call begins untouched, and each step leaves a task in order.
-/

namespace Attest

namespace Task

/-- Induction over tasks, with the parts of tasks next to each other all at once. -/
@[elab_as_elim]
theorem induction {motive : Task → Prop} (reported : ∀ report, motive (.reported report))
    (aborting : ∀ abort, motive (.aborting abort)) (telling : ∀ path message, motive (.telling path message))
    (field : ∀ path stage chain policy nested, motive nested → motive (.field path stage chain policy nested))
    (nesting : ∀ before nested, motive nested → motive (.nesting before nested))
    (all : ∀ tasks, (∀ t ∈ tasks, motive t) → motive (.all tasks)) (t : Task) : motive t :=
  @Task.rec motive (fun tasks => ∀ t ∈ tasks, motive t) reported aborting telling field nesting all
    (fun _ h => nomatch h) (fun _ _ hfirst hrest _ ht => (List.mem_cons.1 ht).elim (fun h => h ▸ hfirst) (hrest _)) t

/-- No part of the task has come to the gate. -/
inductive Untouched : Task → Prop
  | reported (report : Report) : Untouched (.reported report)
  | aborting (abort : Abort) : Untouched (.aborting abort)
  | telling (path : String) (message : Activity String) : Untouched (.telling path message)
  | field {path chain policy nested} (h : Untouched nested) : Untouched (.field path .arriving chain policy nested)
  | all {tasks} (h : ∀ t ∈ tasks, Untouched t) : Untouched (.all tasks)

/-- Whatever is nested in a field that has not ended its chain is untouched. -/
inductive Orderly : Task → Prop
  | reported (report : Report) : Orderly (.reported report)
  | aborting (abort : Abort) : Orderly (.aborting abort)
  | telling (path : String) (message : Activity String) : Orderly (.telling path message)
  | field {path stage chain policy nested} (h : Untouched nested) : Orderly (.field path stage chain policy nested)
  | nesting {before nested} (h : Orderly nested) : Orderly (.nesting before nested)
  | all {tasks} (h : ∀ t ∈ tasks, Orderly t) : Orderly (.all tasks)

/-- The parts of a task that have been begun: the task itself, what is nested in a field that has ended its chain, and
each of tasks next to each other. -/
inductive Part : Task → Task → Prop
  | self (t : Task) : Part t t
  | nesting {before nested u} (h : Part nested u) : Part (.nesting before nested) u
  | all {tasks t u} (ht : t ∈ tasks) (h : Part t u) : Part (.all tasks) u

theorem Untouched.orderly {t : Task} (h : t.Untouched) : t.Orderly := by
  induction h with
  | reported report => exact .reported report
  | aborting abort => exact .aborting abort
  | telling path message => exact .telling path message
  | field h _ => exact .field h
  | all _ ih => exact .all ih

theorem Orderly.part {t u : Task} (h : t.Orderly) (hpart : t.Part u) : u.Orderly := by
  induction hpart with
  | self => exact h
  | nesting _ ih =>
      cases h with
      | nesting h => exact ih h
  | all ht _ ih =>
      cases h with
      | all h => exact ih (h _ ht)

/-! ### Stages -/

@[simp] theorem stages_reported (report : Report) : (reported report).stages = [] := rfl

@[simp] theorem stages_aborting (abort : Abort) : (aborting abort).stages = [] := rfl

@[simp] theorem stages_telling (path : String) (message : Activity String) : (telling path message).stages = [] := rfl

@[simp] theorem stages_field (path : String) (stage : Stage) (chain : Activity (Except Abort (List String)))
    (policy : NestedPolicy) (nested : Task) : (field path stage chain policy nested).stages = [stage] := rfl

@[simp] theorem stages_nesting (before : Report) (nested : Task) : (nesting before nested).stages = nested.stages := by
  rw [stages]

theorem stagesAll_eq_flatMap (tasks : List Task) : stagesAll tasks = tasks.flatMap stages := by
  induction tasks with
  | nil => rfl
  | cons t tasks ih => rw [stagesAll, ih, List.flatMap_cons]

@[simp] theorem stages_all (tasks : List Task) : (all tasks).stages = tasks.flatMap stages := by
  rw [stages, stagesAll_eq_flatMap]

/-- What is at the gate is the fields that have been begun and have not ended their chains. -/
theorem mem_stages_iff {t : Task} {stage : Stage} :
    stage ∈ t.stages ↔ ∃ path chain policy nested, t.Part (.field path stage chain policy nested) := by
  constructor
  · intro hstage
    induction t using Task.induction with
    | reported | aborting | telling => cases hstage
    | field path stage' chain policy nested _ =>
        obtain rfl := List.mem_singleton.1 hstage
        exact ⟨path, chain, policy, nested, .self _⟩
    | nesting before nested ih =>
        rw [stages_nesting] at hstage
        obtain ⟨path, chain, policy, inner, hpart⟩ := ih hstage
        exact ⟨path, chain, policy, inner, .nesting hpart⟩
    | all tasks ih =>
        rw [stages_all] at hstage
        obtain ⟨t, ht, hstage⟩ := List.mem_flatMap.1 hstage
        obtain ⟨path, chain, policy, nested, hpart⟩ := ih t ht hstage
        exact ⟨path, chain, policy, nested, .all ht hpart⟩
  · rintro ⟨path, chain, policy, nested, hpart⟩
    generalize hfield : field path stage chain policy nested = u at hpart
    induction hpart with
    | self =>
        subst hfield
        exact List.mem_singleton_self stage
    | nesting _ ih =>
        rw [stages_nesting]
        exact ih hfield
    | all ht _ ih =>
        rw [stages_all]
        exact List.mem_flatMap.2 ⟨_, ht, ih hfield⟩

theorem Untouched.stages {t : Task} (h : t.Untouched) : ∀ stage ∈ t.stages, stage = .arriving := by
  induction h with
  | reported | aborting | telling => simp
  | field => simp
  | all _ ih =>
      intro stage hstage
      rw [stages_all] at hstage
      obtain ⟨t, ht, hstage⟩ := List.mem_flatMap.1 hstage
      exact ih t ht stage hstage

end Task

/-! ### Calls begin untouched -/

namespace Call

theorem untouched_object {c : Call} {enter : Json → Path → Task} (henter : ∀ value path, (enter value path).Untouched)
    (value : Json) (path : Path) : (c.object enter value path).Untouched := by
  cases value with
  | object members => exact henter _ path
  | null | bool _ | number _ | string _ | array _ => exact .telling _ _

theorem untouched_nested {c : Call} {enter : Plan → Json → Path → Task}
    (henter : ∀ plan value path, (enter plan value path).Untouched) (f : PlannedField) (value : Json) (path : Path) :
    (c.nested enter f value path).Untouched := by
  rw [nested]
  split
  · exact .reported _
  · split
    · exact .reported _
    · split
      · exact .aborting _
      next plan _ =>
        split
        · split
          · refine .all fun t ht => ?_
            obtain ⟨⟨item, i⟩, -, rfl⟩ := List.mem_map.1 ht
            exact untouched_object (henter plan) item _
          · exact .telling _ _
        · exact untouched_object (henter plan) value path

theorem untouched_fields (c : Call) (depth : Nat) (plan : Plan) (object : Json) (path : Path) :
    (c.fields depth plan object path).Untouched := by
  induction depth generalizing plan object path with
  | zero => exact .aborting _
  | succ depth ih =>
      refine .all fun t ht => ?_
      obtain ⟨f, -, rfl⟩ := List.mem_map.1 ht
      exact .field (untouched_nested ih f _ _)

theorem untouched_task (c : Call) (schema : String) (value : Json) : (c.task schema value).Untouched := by
  rw [task]
  split
  · exact .aborting _
  · exact c.untouched_fields _ _ _ _

end Call

namespace Task

/-! ### Steps keep the order -/

theorem Orderly.step {t t' : Task} {g g' : Gate} (horderly : t.Orderly) (h : Step t g t' g') : t'.Orderly := by
  induction h with
  | tell => exact .telling _ _
  | told => exact .reported _
  | knock =>
      cases horderly with
      | field h => exact .field h
  | walk =>
      cases horderly with
      | field h => exact .field h
  | fail => exact .aborting _
  | enter =>
      cases horderly with
      | field h => exact .nesting h.orderly
  | skip => exact .reported _
  | inner _ ih =>
      cases horderly with
      | nesting h => exact .nesting (ih h)
  | joined => exact .reported _
  | passed => exact .aborting _
  | part _ ih =>
      cases horderly with
      | all hall =>
          refine .all fun u hu => ?_
          rcases List.mem_append.1 hu with hu | hu
          · exact hall u (List.mem_append_left _ hu)
          · rcases List.mem_cons.1 hu with rfl | hu
            · exact ih (hall _ (List.mem_append_right _ List.mem_cons_self))
            · exact hall u (List.mem_append_right _ (List.mem_cons_of_mem _ hu))
  | gathered => exact .reported _
  | collapsed => exact .aborting _

/-! ### Who can take a step -/

variable {path : String} {chain : Activity (Except Abort (List String))} {policy : NestedPolicy} {nested : Task}

/-- A field that holds a permit waits for nothing: it can take a step, whatever the gate is like. -/
theorem exists_step_of_holding (g : Gate) : ∃ t' g', Step (.field path .holding chain policy nested) g t' g' := by
  cases chain with
  | note line rest => exact ⟨_, _, .walk (.note line rest)⟩
  | pause rest => exact ⟨_, _, .walk (.pause rest)⟩
  | done answer =>
      cases answer with
      | error abort => exact ⟨_, _, .fail⟩
      | ok messages =>
          cases hallows : policy.allows (!messages.isEmpty) with
          | true => exact ⟨_, _, .enter hallows⟩
          | false => exact ⟨_, _, .skip hallows⟩

/-- What a field that holds a permit does: it goes on with its chain and leaves the gate alone, or it ends its chain,
gives the permit back, and nothing that is left of it has come to the gate. -/
theorem step_of_holding {t' : Task} {g g' : Gate} (hnested : nested.Untouched)
    (h : Step (.field path .holding chain policy nested) g t' g') :
    (∃ rest, chain.Step rest ∧ t' = .field path .holding rest policy nested ∧ g' = g) ∨
      g' = g.release ∧ ∀ stage ∈ t'.stages, stage = .arriving := by
  cases h with
  | knock h hmoved =>
      rw [Stage.advance] at h
      exact absurd (Prod.mk.inj h).1.symm hmoved
  | walk h => exact .inl ⟨_, h, rfl, rfl⟩
  | fail => exact .inr ⟨rfl, by simp⟩
  | enter _ =>
      refine .inr ⟨rfl, ?_⟩
      rw [stages_nesting]
      exact hnested.stages
  | skip _ => exact .inr ⟨rfl, by simp⟩

/-- A step of a part that has been begun is a step of the task. -/
theorem Part.exists_step {t u u' : Task} {g g' : Gate} (hpart : t.Part u) (hstep : Step u g u' g') :
    ∃ t', Step t g t' g' := by
  induction hpart with
  | self => exact ⟨u', hstep⟩
  | nesting _ ih =>
      obtain ⟨t', h⟩ := ih hstep
      exact ⟨_, .inner h⟩
  | all ht _ ih =>
      obtain ⟨t', h⟩ := ih hstep
      obtain ⟨before, after, rfl⟩ := List.append_of_mem ht
      exact ⟨_, .part h⟩

/-- A field that holds a permit, or gets further when it goes to the gate, gives its task a step. -/
theorem exists_step_of_ready {t : Task} {g : Gate} {stage : Stage} (hstage : stage ∈ t.stages)
    (hready : stage = .holding ∨ (stage.advance g).1 ≠ stage) : ∃ t' g', Step t g t' g' := by
  obtain ⟨path, chain, policy, nested, hpart⟩ := mem_stages_iff.1 hstage
  have hfield : ∃ u' g', Step (.field path stage chain policy nested) g u' g' := by
    rcases hready with rfl | hmoved
    · exact exists_step_of_holding g
    · exact ⟨_, _, .knock rfl hmoved⟩
  obtain ⟨u', g', hstep⟩ := hfield
  obtain ⟨t', h⟩ := hpart.exists_step hstep
  exact ⟨t', g', h⟩

/-- A task of which nothing is at the gate has ended or can take a step. -/
theorem exists_step_of_no_stages {t : Task} (g : Gate) (hstages : t.stages = []) :
    (∃ report, t = .reported report) ∨ (∃ abort, t = .aborting abort) ∨ ∃ t' g', Step t g t' g' := by
  induction t using Task.induction with
  | reported report => exact .inl ⟨report, rfl⟩
  | aborting abort => exact .inr (.inl ⟨abort, rfl⟩)
  | telling path message =>
      refine .inr (.inr ?_)
      cases message with
      | done text => exact ⟨_, g, .told⟩
      | note line rest => exact ⟨_, g, .tell (.note line rest)⟩
      | pause rest => exact ⟨_, g, .tell (.pause rest)⟩
  | field path stage chain policy nested _ => cases hstages
  | nesting before nested ih =>
      rw [stages_nesting] at hstages
      refine .inr (.inr ?_)
      rcases ih hstages with ⟨report, rfl⟩ | ⟨abort, rfl⟩ | ⟨t', g', hstep⟩
      · exact ⟨_, g, .joined⟩
      · exact ⟨_, g, .passed⟩
      · exact ⟨_, g', .inner hstep⟩
  | all tasks ih =>
      rw [stages_all, List.flatMap_eq_nil_iff] at hstages
      refine .inr (.inr ?_)
      by_cases hreported : ∀ t ∈ tasks, ∃ report, t = .reported report
      · obtain ⟨reports, rfl⟩ : tasks ∈ Set.range (List.map Task.reported) := by
          rw [Set.range_list_map]
          exact fun t ht => (hreported t ht).imp fun _ h => h.symm
        exact ⟨_, g, .gathered⟩
      · simp only [not_forall] at hreported
        obtain ⟨t, ht, hnot⟩ := hreported
        obtain ⟨before, after, rfl⟩ := List.append_of_mem ht
        rcases ih t ht (hstages t ht) with hreport | ⟨abort, rfl⟩ | ⟨t', g', hstep⟩
        · exact absurd hreport hnot
        · exact ⟨_, _, .collapsed (.refl _)⟩
        · exact ⟨_, g', .part hstep⟩

end Task

end Attest

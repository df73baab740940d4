import Attest.Proofs.Interleaving.Step

/-!
Polling in single steps. A poll takes the parts of a task in their order and each as far as it can go, which is one
of the orders that the steps allow: whatever a poll makes of a task and a gate can be come to step by step. The one
step that has to be looked at closely is the drop of all parts next to one that aborts; a poll drops those after it
first and then those before it, the nearest first.
-/

namespace Attest

/-- What is left to do where an activity has given control back. -/
def Halt.rest : Halt α → Activity α
  | .ended a => .done a
  | .paused rest => rest

namespace Activity

/-- Any number of steps. -/
def Steps (x y : Activity α) : Prop :=
  Relation.ReflTransGen Step x y

theorem steps_advance (x : Activity α) : x.Steps x.advance.2.rest := by
  induction x with
  | done a => exact .refl
  | note line rest ih => exact .head (.note line rest) ih
  | pause rest => exact .single (.pause rest)

end Activity

theorem Stage.gate_of_advance_eq_self {stage : Stage} {g : Gate} (h : (stage.advance g).1 = stage) :
    (stage.advance g).2 = g := by
  cases stage with
  | arriving => cases hg : g.enter? <;> simp [advance, hg] at h
  | queued ticket =>
      by_cases hcalled : g.isCalled ticket
      · simp [advance, hcalled] at h
      · simp [advance, hcalled]
  | holding => rfl

namespace Task

/-- Any number of steps. -/
def Steps (t : Task) (g : Gate) (t' : Task) (g' : Gate) : Prop :=
  Relation.ReflTransGen (fun p q : Task × Gate => Step p.1 p.2 q.1 q.2) (t, g) (t', g')

section

variable {t t' u : Task} {g g' g'' : Gate}

theorem Steps.refl : Steps t g t g :=
  Relation.ReflTransGen.refl

theorem Steps.trans (h : Steps t g t' g') (h' : Steps t' g' u g'') : Steps t g u g'' :=
  Relation.ReflTransGen.trans h h'

theorem Step.steps (h : Step t g t' g') : Steps t g t' g' :=
  Relation.ReflTransGen.single h

/-- Steps of a part are steps of what it is a part of. -/
theorem Steps.lift {f : Task → Task} (hf : ∀ {t g t' g'}, Step t g t' g' → Step (f t) g (f t') g')
    (h : Steps t g t' g') : Steps (f t) g (f t') g' :=
  Relation.ReflTransGen.lift (fun p : Task × Gate => (f p.1, p.2)) (fun _ _ hstep => hf hstep) _ _ h

theorem Steps.inner {before : Report} (h : Steps t g t' g') : Steps (.nesting before t) g (.nesting before t') g' :=
  h.lift .inner

theorem Steps.part {before after : List Task} (h : Steps t g t' g') :
    Steps (.all (before ++ t :: after)) g (.all (before ++ t' :: after)) g' :=
  h.lift (f := fun t => .all (before ++ t :: after)) .part

/-- Steps of an activity are steps of the task that waits for it. -/
theorem steps_of_activity {f : Activity α → Task} {x y : Activity α}
    (hf : ∀ {x y}, x.Step y → Step (f x) g (f y) g) (h : x.Steps y) : Steps (f x) g (f y) g :=
  Relation.ReflTransGen.lift (fun x => (f x, g)) (fun _ _ hstep => hf hstep) _ _ h

theorem steps_knock (path : String) (stage : Stage) (chain : Activity (Except Abort (List String)))
    (policy : NestedPolicy) :
    Steps (.field path stage chain policy t) g (.field path (stage.advance g).1 chain policy t)
      (stage.advance g).2 := by
  by_cases h : (stage.advance g).1 = stage
  · rw [h, Stage.gate_of_advance_eq_self h]
    exact .refl
  · exact (Step.knock rfl h).steps

end

/-! ### Dropping -/

theorem leave_append (a b : List Stage) (g : Gate) : leave (a ++ b) g = leave b (leave a g) := by
  rw [leave, List.foldl_append]
  rfl

mutual

theorem drop_eq_leave : (t : Task) → (g : Gate) → t.drop g = leave t.stages g
  | .reported _, _ => rfl
  | .aborting _, _ => rfl
  | .telling _ _, _ => rfl
  | .field _ _ _ _ _, _ => rfl
  | .nesting _ nested, g => by rw [drop, stages, drop_eq_leave nested g]
  | .all tasks, g => by rw [drop, stages, dropAll_eq_leave tasks g]
termination_by structural t => t

theorem dropAll_eq_leave : (ts : List Task) → (g : Gate) → dropAll ts g = leave (stagesAll ts) g
  | [], _ => rfl
  | t :: ts, g => by rw [dropAll, stagesAll, leave_append, ← drop_eq_leave t g, dropAll_eq_leave ts]
termination_by structural ts => ts

end

/-! ### Polling -/

/-- The task that a poll leaves behind. -/
def settled : Except Abort Task → Task
  | .ok t => t
  | .error abort => .aborting abort

theorem reports?_eq_some {ts : List Task} {reports : List Report} (h : reports? ts = some reports) :
    ts = reports.map .reported := by
  induction ts generalizing reports with
  | nil =>
      obtain rfl := Option.some.inj h
      rfl
  | cons t ts ih =>
      cases t with
      | reported r =>
          obtain ⟨rest, hrest, rfl⟩ := Option.map_eq_some_iff.1 h
          rw [ih hrest, List.map_cons]
      | aborting _ | telling _ _ | field _ _ _ _ _ | nesting _ _ | all _ => cases h

theorem steps_gathered (ts : List Task) (g : Gate) : Steps (.all ts) g (gathered ts) g := by
  rw [gathered]
  cases h : reports? ts with
  | none => exact .refl
  | some reports =>
      rw [reports?_eq_some h]
      exact Step.gathered.steps

theorem steps_joined (before : Report) (t : Task) (g : Gate) : Steps (.nesting before t) g (joined before t) g := by
  cases t with
  | reported report => exact Step.joined.steps
  | aborting _ | telling _ _ | field _ _ _ _ _ | nesting _ _ | all _ => exact .refl

/-- What is nested goes as far as a poll takes it, and then the field with it. -/
theorem steps_nesting {before : Report} {nested : Task} {g : Gate}
    (h : Steps nested g (settled (nested.poll g).result) (nested.poll g).gate) :
    Steps (.nesting before nested) g (settled ((nested.poll g).map (joined before)).result) (nested.poll g).gate := by
  refine h.inner.trans ?_
  cases hresult : (nested.poll g).result with
  | error abort =>
      simp only [Turn.map, hresult, Except.map, settled]
      exact Step.passed.steps
  | ok t =>
      simp only [Turn.map, hresult, Except.map, settled]
      exact steps_joined before t _

/-- What a poll of tasks next to each other leaves behind, whatever stands before them: all of them one poll later, or
one of them aborting and the others dropped in some order. -/
def Swept (ts : List Task) (g : Gate) (turn : Turn (List Task)) : Prop :=
  match turn.result with
  | .ok ts' => ∀ done, Steps (.all (done ++ ts)) g (.all (done ++ ts')) turn.gate
  | .error abort => ∃ before after mid order, order.Perm (stagesAll (before ++ after)) ∧ turn.gate = leave order mid ∧
      ∀ done, Steps (.all (done ++ ts)) g (.all (done ++ (before ++ .aborting abort :: after))) mid

mutual

/-- **A poll is a sequence of steps.** -/
theorem steps_poll : (t : Task) → (g : Gate) → Steps t g (settled (t.poll g).result) (t.poll g).gate
  | .reported _, _ => .refl
  | .aborting _, _ => .refl
  | .telling path message, g => by
      have hsteps := steps_of_activity (g := g) (f := .telling path) .tell message.steps_advance
      rw [poll]
      rcases hadvance : message.advance with ⟨notes, text | rest⟩
      · rw [hadvance] at hsteps
        exact hsteps.trans Step.told.steps
      · rw [hadvance] at hsteps
        exact hsteps
  | .field path stage chain policy nested, g => by
      have hknock := steps_knock (t := nested) (g := g) path stage chain policy
      rw [poll]
      rcases hstage : stage.advance g with ⟨stage', g'⟩
      rw [hstage] at hknock
      cases stage' with
      | arriving => exact hknock
      | queued ticket => exact hknock
      | holding =>
          have hwalk := steps_of_activity (g := g') (f := (.field path .holding · policy nested)) .walk
            chain.steps_advance
          refine hknock.trans ?_
          rcases hadvance : chain.advance with ⟨notes, (abort | messages) | rest⟩
          · rw [hadvance] at hwalk
            exact hwalk.trans Step.fail.steps
          · rw [hadvance] at hwalk
            refine hwalk.trans ?_
            by_cases hallows : policy.allows (!messages.isEmpty)
            · simp only [hallows, if_true]
              exact (Step.enter hallows).steps.trans (steps_nesting (steps_poll nested g'.release))
            · simp only [hallows]
              exact (Step.skip (eq_false_of_ne_true hallows)).steps
          · rw [hadvance] at hwalk
            exact hwalk
  | .nesting before nested, g => by
      rw [poll]
      exact steps_nesting (steps_poll nested g)
  | .all tasks, g => by
      have hswept := swept_pollAll tasks g
      rw [Swept] at hswept
      rw [poll]
      cases hresult : (pollAll tasks g).result with
      | ok ts =>
          simp only [hresult, Turn.map, Except.map, settled] at hswept ⊢
          exact (hswept []).trans (steps_gathered ts _)
      | error abort =>
          simp only [hresult, Turn.map, Except.map, settled] at hswept ⊢
          obtain ⟨before, after, mid, order, horder, hgate, hsteps⟩ := hswept
          rw [hgate]
          exact (hsteps []).trans (Step.collapsed horder).steps
termination_by structural t => t

theorem swept_pollAll : (ts : List Task) → (g : Gate) → Swept ts g (pollAll ts g)
  | [], _ => fun _ => .refl
  | t :: ts, g => by
      have hfirst := steps_poll t g
      rw [pollAll]
      rcases hpoll : poll t g with ⟨g', notes, abort | t'⟩
      · rw [hpoll] at hfirst
        exact ⟨[], ts, g', stagesAll ts, .refl _, dropAll_eq_leave ts g', fun done => hfirst.part⟩
      · rw [hpoll] at hfirst
        have hrest := swept_pollAll ts g'
        have hmoved (done : List Task) : done ++ t' :: ts = (done ++ [t']) ++ ts := by simp
        rcases hpolls : pollAll ts g' with ⟨g'', more, abort | ts'⟩
        · rw [hpolls] at hrest
          simp only [hpolls]
          obtain ⟨before, after, mid, order, horder, hgate, hsteps⟩ := hrest
          -- The parts behind are gone first, and then this one, which stands before the one that aborts.
          refine ⟨t' :: before, after, mid, order ++ t'.stages, ?_, ?_, fun done => ?_⟩
          · rw [List.cons_append, stagesAll]
            exact (horder.append_right _).trans List.perm_append_comm
          · change drop t' g'' = _
            rw [show g'' = leave order mid from hgate, leave_append, drop_eq_leave]
          · have hsteps := hsteps (done ++ [t'])
            rw [← hmoved, List.append_assoc] at hsteps
            exact hfirst.part.trans hsteps
        · rw [hpolls] at hrest
          simp only [hpolls]
          intro done
          have hsteps := hrest (done ++ [t'])
          rw [← hmoved, List.append_assoc] at hsteps
          exact hfirst.part.trans hsteps
termination_by structural ts => ts

end

end Task

end Attest

import Attest.Proofs.Gate.Accounts
import Attest.Proofs.Interleaving.System
import Attest.Proofs.Task.Begun

/-!
The permits of a gate under any schedule of the calls that share it, calls that are given up half-way included.

The invariant has two parts. The accounts of the gate are kept for the stages of all fields of all calls that run; and
each call is in order, so that what is nested in a field has not come to the gate while the field may hold a permit.
From the first part somebody can always go on, however deep the calls are nested and however few permits there are.
-/

namespace Attest

namespace Gate

variable {capacity : Nat} {g g' : Gate} {stages others : List Stage}

/-- Fields that go away one after the other, in any order, keep the accounts of those that stay. -/
theorem Accounts.leave {order : List Stage} (h : g.Accounts capacity (stages ++ others)) (horder : order.Perm stages) :
    (Task.leave order g).Accounts capacity others := by
  have hleaving : g.Accounts capacity (order ++ others) := h.perm (horder.symm.append_right others)
  clear h horder
  induction order generalizing g with
  | nil => exact hleaving
  | cons stage order ih => exact ih hleaving.drop

/-- The fields of tasks next to each other, those of one of them first. -/
theorem stages_middle (before after : List Task) (t : Task) (others : List Stage) :
    ((Task.all (before ++ t :: after)).stages ++ others).Perm
      (t.stages ++ ((Task.all (before ++ after)).stages ++ others)) := by
  rw [Task.stages_all, Task.stages_all, ← List.append_assoc, ← List.flatMap_cons]
  exact (List.perm_middle.flatMap_right _).append_right others

/-- **A step of a task keeps the accounts**, whatever else is at the gate. -/
theorem Accounts.step {t t' : Task} (h : g.Accounts capacity (t.stages ++ others)) (horderly : t.Orderly)
    (hstep : Task.Step t g t' g') : g'.Accounts capacity (t'.stages ++ others) := by
  induction hstep generalizing others with
  | tell | told | joined | passed => exact h
  | walk => exact h
  | knock hadvance =>
      have hkept := Accounts.advance h
      rw [hadvance] at hkept
      exact hkept
  | fail => exact Accounts.release h
  | skip => exact Accounts.release h
  | enter =>
      -- What is nested comes into view now, but it has not come to the gate.
      cases horderly with
      | field hnested =>
          rw [Task.stages_nesting]
          exact (accounts_append_iff hnested.stages).2 (Accounts.release h)
  | inner _ ih =>
      cases horderly with
      | nesting horderly =>
          rw [Task.stages_nesting] at h ⊢
          exact ih h horderly
  | @part before t t' after _ _ _ ih =>
      -- The accounts know no order, so the part that moves can be taken to the front.
      have ht : t.Orderly :=
        horderly.part (.all (List.mem_append_right before List.mem_cons_self) (.self t))
      exact (ih (h.perm (stages_middle before after t others)) ht).perm (stages_middle before after t' others).symm
  | @gathered reports =>
      have hnone : (Task.all (reports.map .reported)).stages = [] := by simp
      rw [hnone] at h
      exact h
  | @collapsed before abort after order g horder =>
      rw [Task.stagesAll_eq_flatMap, ← Task.stages_all] at horder
      have hothers : g.Accounts capacity ((Task.all (before ++ after)).stages ++ others) :=
        h.perm (stages_middle before after (.aborting abort) others)
      exact hothers.leave horder

end Gate

/-! ### The calls at a gate -/

/-- The stages of the fields of a call that runs; none of a call that has ended or was given up. -/
def Progress.stages : Option Progress → List Stage
  | some (.running t) => t.stages
  | _ => []

namespace System

/-- Where the fields of all calls stand that have not ended their chains. -/
def stages (s : System) : List Stage :=
  s.calls.flatMap Progress.stages

/-- How many chains run. -/
def holders (s : System) : Nat :=
  s.stages.count .holding

/-- A step by which no call is given up. -/
def Advances (s s' : System) : Prop :=
  s.Step s' ∧ ∀ i : Nat, s'.calls[i]? = some none → s.calls[i]? = some none

/-- Calls in order, at a gate whose accounts are kept. -/
structure Accounted (capacity : Nat) (s : System) : Prop where
  orderly : ∀ t, some (.running t) ∈ s.calls → t.Orderly
  accounts : s.gate.Accounts capacity s.stages

variable {capacity : Nat} {s s' : System} {i : Nat} {p? q? : Option Progress} {g : Gate} {t : Task}

/-- The fields at the gate, those of one call first, and the same after something else was put in its place. -/
theorem exists_stages_perm (hi : s.calls[i]? = some p?) :
    ∃ others, s.stages.Perm (Progress.stages p? ++ others) ∧
      ∀ q? g, (stages ⟨g, s.calls.set i q?⟩).Perm (Progress.stages q? ++ others) := by
  obtain ⟨hlt, rfl⟩ := List.getElem?_eq_some_iff.1 hi
  refine ⟨(s.calls.take i ++ s.calls.drop (i + 1)).flatMap Progress.stages, ?_, fun q? g => ?_⟩
  · have hsplit : s.calls = s.calls.take i ++ s.calls[i] :: s.calls.drop (i + 1) := by
      rw [List.getElem_cons_drop, List.take_append_drop]
    rw [stages, ← List.flatMap_cons]
    conv_lhs => rw [hsplit]
    exact List.perm_middle.flatMap_right _
  · rw [stages, List.set_eq_take_append_cons_drop, if_pos hlt, ← List.flatMap_cons]
    exact List.perm_middle.flatMap_right _

/-- One call is put in the place of another, with what this does to the gate. -/
theorem Accounted.set (h : s.Accounted capacity) (hi : s.calls[i]? = some p?)
    (horderly : ∀ t, q? = some (.running t) → t.Orderly)
    (haccounts : ∀ others, s.gate.Accounts capacity (Progress.stages p? ++ others) →
      g.Accounts capacity (Progress.stages q? ++ others)) :
    Accounted capacity ⟨g, s.calls.set i q?⟩ := by
  obtain ⟨others, hbefore, hafter⟩ := exists_stages_perm hi
  refine ⟨fun t ht => ?_, (haccounts others (h.accounts.perm hbefore)).perm (hafter q? g).symm⟩
  rcases List.mem_or_eq_of_mem_set ht with hmem | heq
  · exact h.orderly t hmem
  · exact horderly t heq.symm

/-- **A step keeps the accounts**, also the step by which a call is given up. -/
theorem Accounted.step (h : s.Accounted capacity) (hstep : s.Step s') : s'.Accounted capacity := by
  cases hstep with
  | @move i t t' g hi hmove =>
      have horderly : t.Orderly := h.orderly t (List.mem_of_getElem? hi)
      refine h.set hi (fun u hu => ?_) fun others haccounts => haccounts.step horderly hmove
      obtain rfl := Progress.running.inj (Option.some.inj hu)
      exact horderly.step hmove
  | report hi => exact h.set hi (fun u hu => by cases hu) fun others haccounts => haccounts
  | abort hi => exact h.set hi (fun u hu => by cases hu) fun others haccounts => haccounts
  | giveUp hi horder => exact h.set hi (fun u hu => by cases hu) fun others haccounts => haccounts.leave horder

theorem Accounted.reaches (h : s.Accounted capacity) (hreaches : s.Reaches s') : s'.Accounted capacity := by
  induction hreaches with
  | refl => exact h
  | tail _ hstep ih => exact ih.step hstep

/-- Tasks that have not been begun owe nothing to a gate that has all its permits. -/
theorem accounted_start {d : Dispatcher} (hd : d.capacity = some capacity) {tasks : List Task}
    (htasks : ∀ t ∈ tasks, t.Untouched) : (start d tasks).Accounted capacity := by
  constructor
  · intro t ht
    obtain ⟨u, hu, heq⟩ := List.mem_map.1 ht
    obtain rfl := Progress.running.inj (Option.some.inj heq)
    exact (htasks u hu).orderly
  · have harriving : ∀ stage ∈ (start d tasks).stages, stage = .arriving := by
      intro stage hstage
      obtain ⟨p?, hp, hstage⟩ := List.mem_flatMap.1 hstage
      obtain ⟨u, hu, rfl⟩ := List.mem_map.1 hp
      exact (htasks u hu).stages stage hstage
    have hnobody := Gate.accounts_ofDispatcher hd
    rw [← List.append_nil (start d tasks).stages]
    exact (Gate.accounts_append_iff harriving).2 hnobody

/-! ### Somebody can go on -/

/-- A step of a call that is not given up is a step of the system by which nobody is given up. -/
theorem advances_set {p : Progress} (hstep : s.Step ⟨g, s.calls.set i (some p)⟩) :
    s.Advances ⟨g, s.calls.set i (some p)⟩ := by
  refine ⟨hstep, fun j hj => ?_⟩
  rw [List.getElem?_set] at hj
  split at hj
  · split at hj
    · cases hj
    · cases hj
  · exact hj

/-- A field at the gate belongs to a call that runs. -/
theorem exists_running_of_mem_stages {stage : Stage} (hstage : stage ∈ s.stages) :
    ∃ (i : Nat) (t : Task), s.calls[i]? = some (some (.running t)) ∧ stage ∈ t.stages := by
  obtain ⟨p?, hp, hstage⟩ := List.mem_flatMap.1 hstage
  obtain ⟨i, hi⟩ := List.getElem?_of_mem hp
  rcases p? with _ | t | result
  · cases hstage
  · exact ⟨i, t, hi, hstage⟩
  · cases hstage

/-- If somebody at the gate gets further whenever anybody is there, then some call can take a step as long as a call
runs. -/
theorem exists_advances_of_ready
    (hready : s.stages ≠ [] → ∃ stage ∈ s.stages, stage = .holding ∨ (stage.advance s.gate).1 ≠ stage)
    (hrunning : some (.running t) ∈ s.calls) : ∃ s', s.Advances s' := by
  by_cases hnobody : s.stages = []
  · -- Nobody is at the gate, so that the gate is in nobody's way.
    obtain ⟨i, hi⟩ := List.getElem?_of_mem hrunning
    have hstages : t.stages = [] := List.flatMap_eq_nil_iff.1 hnobody _ hrunning
    rcases Task.exists_step_of_no_stages s.gate hstages with ⟨report, rfl⟩ | ⟨abort, rfl⟩ | ⟨t', g', hstep⟩
    · exact ⟨_, advances_set (.report hi)⟩
    · exact ⟨_, advances_set (.abort hi)⟩
    · exact ⟨_, advances_set (.move hi hstep)⟩
  · -- The gate lets somebody get further, maybe a field of another call.
    obtain ⟨stage, hstage, hready⟩ := hready hnobody
    obtain ⟨i, u, hi, hstage⟩ := exists_running_of_mem_stages hstage
    obtain ⟨u', g', hstep⟩ := Task.exists_step_of_ready hstage hready
    exact ⟨_, advances_set (.move hi hstep)⟩

/-- **No deadlock**: as long as a call runs, some call can take a step. -/
theorem Accounted.exists_advances (h : s.Accounted capacity) (hcapacity : 1 ≤ capacity)
    (hrunning : some (.running t) ∈ s.calls) : ∃ s', s.Advances s' :=
  exists_advances_of_ready (h.accounts.exists_ready hcapacity) hrunning

/-- When no call runs any more all permits are free. -/
theorem Accounted.free_eq (h : s.Accounted capacity) (hended : ∀ t, some (.running t) ∉ s.calls) :
    s.gate.free = some capacity := by
  have hnobody : s.stages = [] := by
    rw [stages, List.flatMap_eq_nil_iff]
    intro p? hp
    rcases p? with _ | t | result
    · rfl
    · exact absurd hp (hended t)
    · rfl
  have haccounts := h.accounts
  rw [hnobody] at haccounts
  exact haccounts.free_eq

/-! ### Permits under any schedule -/

/-- **Permits and progress.** Any number of calls, on any plans and values, share a gate that has permits. However their
steps follow each other, and whoever is given up on the way:
the free permits, those of the chains that run and those that are kept for a ticket are all the permits there are, and
whoever a permit is kept for is a field of a call that runs;
a field that holds a permit goes on with its chain, whatever the gate is like, and has given the permit back before
anything that is nested in it comes to the gate;
while a call runs some call can take a step; and when none runs all permits are free. -/
theorem permits_accounted {d : Dispatcher} (hd : d.capacity = some capacity) (hcapacity : 1 ≤ capacity)
    (asks : List (Call × String × Json))
    (hreaches : (start d (asks.map fun (c, schema, value) => c.task schema value)).Reaches s) :
    (∃ free, s.gate.free = some free ∧ free + s.holders + s.gate.called.length = capacity) ∧
      s.holders ≤ capacity ∧
      (∀ ticket ∈ s.gate.called, .queued ticket ∈ s.stages) ∧
      (∀ t, some (.running t) ∈ s.calls → ∀ path chain policy nested,
        t.Part (.field path .holding chain policy nested) →
        nested.Untouched ∧ ∀ g, (∃ t' g', Task.Step (.field path .holding chain policy nested) g t' g') ∧
          ∀ t' g', Task.Step (.field path .holding chain policy nested) g t' g' →
            (∃ rest, chain.Step rest ∧ t' = .field path .holding rest policy nested ∧ g' = g) ∨
              g' = g.release ∧ ∀ stage ∈ t'.stages, stage = .arriving) ∧
      ((∃ t, some (.running t) ∈ s.calls) → ∃ s', s.Advances s') ∧
      ((∀ t, some (.running t) ∉ s.calls) → s.gate.free = some capacity) := by
  have huntouched : ∀ t ∈ asks.map fun (c, schema, value) => c.task schema value, t.Untouched := by
    intro t ht
    obtain ⟨⟨c, schema, value⟩, -, rfl⟩ := List.mem_map.1 ht
    exact c.untouched_task schema value
  have hsystem : s.Accounted capacity := (accounted_start hd huntouched).reaches hreaches
  obtain ⟨free, hfree, hsum⟩ := hsystem.accounts.permits
  have hholders : free + s.holders + s.gate.called.length = capacity := hsum
  refine ⟨⟨free, hfree, hholders⟩, by omega, fun ticket hticket => hsystem.accounts.queued_mem hticket, ?_, ?_,
    hsystem.free_eq⟩
  · intro t ht path chain policy nested hpart
    cases (hsystem.orderly t ht).part hpart with
    | field hnested =>
        exact ⟨hnested, fun g => ⟨Task.exists_step_of_holding g, fun t' g' hstep => Task.step_of_holding hnested hstep⟩⟩
  · rintro ⟨t, ht⟩
    exact hsystem.exists_advances hcapacity ht

/-- A predicate that gives control back once before it finds a value valid. -/
def waiting : Predicate := fun _ _ _ => .pause (.done (.ok .valid))

/-- Checks that wait: of an item, of its number, and of a note beside the item. -/
def waitingPlans : PlanSet where
  plans := [
    ⟨"Order", [⟨"item", false, [.ofStep ⟨.custom "waiting", none⟩ (.custom waiting)], .empty, some ⟨"Item", false⟩⟩,
      ⟨"note", false, [.ofStep ⟨.custom "waiting", none⟩ (.custom waiting)], .empty, none⟩], []⟩,
    ⟨"Item", [⟨"number", false, [.ofStep ⟨.custom "waiting", none⟩ (.custom waiting)], .empty, none⟩], []⟩]

def waitingCall : Call where
  plans := waitingPlans
  context := .standard ⟨some 1⟩ (.fixed ⟨0, 0⟩)
  policy := .always
  maxDepth := 64

def notedOrder : Json :=
  .object [("item", .object [("number", .number (.int 1))]), ("note", .string "n")]

/-- So many rounds of one call on an order with a single permit. -/
def waitingAfter (rounds : Nat) : System :=
  (List.replicate rounds 0).foldl turn (start ⟨some 1⟩ [waitingCall.task "Order" notedOrder])

theorem permits_accounted_waiting :
    (⟨some 1⟩ : Dispatcher).capacity = some 1 ∧ 1 ≤ 1 ∧
      (start ⟨some 1⟩ [waitingCall.task "Order" notedOrder]).Reaches (waitingAfter 3) ∧
      (∃ free, (waitingAfter 3).gate.free = some free ∧
        free + (waitingAfter 3).holders + (waitingAfter 3).gate.called.length = 1) ∧
      (∃ s', (waitingAfter 3).Advances s') ∧ (waitingAfter 5).gate.free = some 1 := by
  have hreaches (rounds : Nat) :
      (start ⟨some 1⟩ ([(waitingCall, "Order", notedOrder)].map fun (c, schema, value) => c.task schema value)).Reaches
        (waitingAfter rounds) := reaches_turns _ _
  obtain ⟨hpermits, -, -, -, hprogress, -⟩ := permits_accounted rfl (Nat.le_refl 1) _ (hreaches 3)
  obtain ⟨-, -, -, -, -, hfree⟩ := permits_accounted rfl (Nat.le_refl 1) _ (hreaches 5)
  refine ⟨rfl, Nat.le_refl 1, hreaches 3, hpermits, hprogress ?_, hfree ?_⟩
  · have hqueued : .queued 1 ∈ (waitingAfter 3).stages := by decide +kernel
    obtain ⟨i, t, hi, -⟩ := exists_running_of_mem_stages hqueued
    exact ⟨t, List.mem_of_getElem? hi⟩
  · have hlength : (waitingAfter 5).calls.length = 1 := by decide +kernel
    have hresult : ∃ result, (waitingAfter 5).result? 0 = some result := Option.isSome_iff_exists.1 (by decide +kernel)
    obtain ⟨p?, hcalls⟩ := List.length_eq_one_iff.1 hlength
    obtain ⟨result, hresult⟩ := hresult
    have hended := result?_eq_some_iff.1 hresult
    rw [hcalls] at hended ⊢
    obtain rfl := Option.some.inj hended
    intro t ht
    cases List.mem_singleton.1 ht

/-- **A permit that is on its way.** After three rounds the chains of the item and of the note have ended and that of
the number has not begun: no chain runs, and yet no permit is free, for the only one is kept for the number. -/
theorem no_permit_free_while_none_held :
    (start ⟨some 1⟩ [waitingCall.task "Order" notedOrder]).Reaches (waitingAfter 3) ∧
      (waitingAfter 3).gate.free = some 0 ∧ (waitingAfter 3).holders = 0 ∧
      ¬ ∃ free, (waitingAfter 3).gate.free = some free ∧ free + (waitingAfter 3).holders = 1 := by
  have hfree : (waitingAfter 3).gate.free = some 0 := by decide +kernel
  have hnone : (waitingAfter 3).holders = 0 := by decide +kernel
  refine ⟨reaches_turns _ _, hfree, hnone, ?_⟩
  rintro ⟨free, hother, hsum⟩
  rw [hfree] at hother
  obtain rfl := Option.some.inj hother
  omega

end System

end Attest

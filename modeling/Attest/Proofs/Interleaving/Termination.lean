import Attest.Proofs.Interleaving.Permits

/-!
Every schedule ends, and where none can go on no call runs.

What is left of a task is counted by its budget, on which every step of any of its parts draws: a note or a pause of
an activity, a trip to the gate, and one for each part that will be put together. Nothing is ever added to a budget,
since a task holds from the start all that may come to be nested in it. So no order of the steps of any calls goes on
for ever.

That nobody is left waiting at the gate comes from the accounts of its permits. At a gate without a limit it comes
from something simpler, that nobody there ever has to wait.
-/

namespace Attest

namespace Activity

/-- How many notes and pauses are still to come. -/
def length : Activity α → Nat
  | .done _ => 0
  | .note _ rest => rest.length + 1
  | .pause rest => rest.length + 1

theorem Step.length_eq {x y : Activity α} (h : x.Step y) : x.length = y.length + 1 := by
  cases h with
  | note line rest => rfl
  | pause rest => rfl

end Activity

namespace Stage

/-- How often a field gets further at the gate before it holds a permit, at most. -/
def trips : Stage → Nat
  | .arriving => 2
  | .queued _ => 1
  | .holding => 0

theorem trips_advance_lt {stage : Stage} {g : Gate} (hmoved : (stage.advance g).1 ≠ stage) :
    (stage.advance g).1.trips < stage.trips := by
  cases stage with
  | arriving =>
      rw [advance]
      cases g.enter? with
      | none => exact Nat.lt_succ_self 1
      | some g' => exact Nat.succ_pos 1
  | queued ticket =>
      rw [advance] at hmoved ⊢
      by_cases hcalled : g.isCalled ticket
      · rw [if_pos hcalled]
        exact Nat.succ_pos 0
      · rw [if_neg hcalled] at hmoved
        exact absurd rfl hmoved
  | holding => exact absurd rfl hmoved

end Stage

namespace Task

mutual

/-- How many steps a task may take at most. -/
def budget : Task → Nat
  | .reported _ => 0
  | .aborting _ => 0
  | .telling _ message => message.length + 1
  | .field _ stage chain _ nested => stage.trips + chain.length + budget nested + 2
  | .nesting _ nested => budget nested + 1
  | .all tasks => budgetAll tasks + 1
termination_by structural t => t

def budgetAll : List Task → Nat
  | [] => 0
  | t :: ts => budget t + budgetAll ts
termination_by structural ts => ts

end

theorem budget_all_middle (before after : List Task) (t : Task) :
    (all (before ++ t :: after)).budget = budgetAll before + (t.budget + budgetAll after) + 1 := by
  rw [budget]
  congr 1
  induction before with
  | nil => rw [List.nil_append, budgetAll, budgetAll, Nat.zero_add]
  | cons u before ih => rw [List.cons_append, budgetAll, ih, budgetAll, Nat.add_assoc]

/-- **A step draws on the budget.** -/
theorem Step.budget_lt {t t' : Task} {g g' : Gate} (h : Step t g t' g') : t'.budget < t.budget := by
  induction h with
  | tell h =>
      have hlength := h.length_eq
      rw [budget, budget]
      omega
  | told => exact Nat.succ_pos _
  | @knock path stage stage' chain policy nested g g' h hmoved =>
      obtain rfl : (stage.advance g).1 = stage' := congrArg Prod.fst h
      have htrips : (stage.advance g).1.trips < stage.trips := Stage.trips_advance_lt hmoved
      rw [budget, budget]
      omega
  | walk h =>
      have hlength := h.length_eq
      rw [budget, budget]
      omega
  | fail | skip => exact Nat.succ_pos _
  | enter _ =>
      rw [budget, budget]
      omega
  | inner _ ih =>
      rw [budget, budget]
      omega
  | joined | passed => exact Nat.succ_pos _
  | part _ ih =>
      rw [budget_all_middle, budget_all_middle]
      omega
  | gathered | collapsed => exact Nat.succ_pos _

/-! ### Where nobody has to wait -/

theorem free_leave {order : List Stage} {g : Gate} (h : g.free = none) : (leave order g).free = none := by
  have hrelease {g : Gate} (h : g.free = none) : g.release.free = none := by
    rw [Gate.release]
    split
    · exact h
    · change g.free.map (· + 1) = none
      rw [h, Option.map_none]
  induction order generalizing g with
  | nil => exact h
  | cons stage order ih =>
      refine ih (g := stage.drop g) ?_
      cases stage with
      | arriving => exact h
      | holding => exact hrelease h
      | queued ticket =>
          rw [Stage.drop, Gate.leave]
          split
          · exact hrelease (g := g.answer ticket) h
          · exact h

/-- A step at a gate without a limit: the gate stays so, and nobody who does not wait begins to wait. -/
theorem Step.unqueued {t t' : Task} {g g' : Gate} (h : Step t g t' g') (horderly : t.Orderly) (hfree : g.free = none)
    (hnone : ∀ stage ∈ t.stages, stage.ticket? = none) :
    g'.free = none ∧ ∀ stage ∈ t'.stages, stage.ticket? = none := by
  have hgoes (g : Gate) (hfree : g.free = none) : g.release.free = none := by
    have hleave : (leave [.holding] g).free = none := free_leave hfree
    exact hleave
  induction h with
  | tell | told | joined | passed => exact ⟨hfree, hnone⟩
  | walk => exact ⟨hfree, hnone⟩
  | @knock path stage stage' chain policy nested g g' h hmoved =>
      cases stage with
      | arriving =>
          have henter : g.enter? = some g := by rw [Gate.enter?, hfree]
          rw [Stage.advance, henter] at h
          obtain ⟨rfl, rfl⟩ := Prod.mk.inj h
          exact ⟨hfree, by simp [Stage.ticket?]⟩
      | queued ticket => cases hnone _ (List.mem_singleton_self _)
      | holding => exact absurd (Prod.mk.inj h).1.symm hmoved
  | fail | skip => exact ⟨hgoes _ hfree, by simp⟩
  | enter =>
      -- What is nested comes into view now, but it has not come to the gate.
      cases horderly with
      | field hnested =>
          refine ⟨hgoes _ hfree, fun stage hstage => ?_⟩
          rw [stages_nesting] at hstage
          rw [hnested.stages stage hstage]
          rfl
  | inner _ ih =>
      cases horderly with
      | nesting horderly =>
          rw [stages_nesting] at hnone ⊢
          exact ih horderly hfree hnone
  | @part before t t' after _ _ _ ih =>
      have ht : t.Orderly := horderly.part (.all (List.mem_append_right before List.mem_cons_self) (.self t))
      rw [stages_all, List.forall_mem_flatMap, List.forall_mem_append, List.forall_mem_cons] at hnone
      obtain ⟨hbefore, hmoves, hafter⟩ := hnone
      obtain ⟨hfree, hmoved⟩ := ih ht hfree hmoves
      refine ⟨hfree, ?_⟩
      rw [stages_all, List.forall_mem_flatMap, List.forall_mem_append, List.forall_mem_cons]
      exact ⟨hbefore, hmoved, hafter⟩
  | gathered => exact ⟨hfree, by simp⟩
  | collapsed => exact ⟨free_leave hfree, by simp⟩

end Task

/-! ### Calls that share a gate -/

/-- How many steps may be taken for a call, the one that ends it included. -/
def Progress.budget : Option Progress → Nat
  | some (.running t) => t.budget + 1
  | _ => 0

namespace System

variable {s s' : System} {i : Nat} {p? q? : Option Progress} {g : Gate} {d : Dispatcher} {tasks : List Task}

/-- How many steps may be taken for calls. -/
def budgetOf : List (Option Progress) → Nat
  | [] => 0
  | p? :: calls => Progress.budget p? + budgetOf calls

theorem budgetOf_set_lt {calls : List (Option Progress)} (hi : calls[i]? = some p?)
    (h : Progress.budget q? < Progress.budget p?) : budgetOf (calls.set i q?) < budgetOf calls := by
  induction calls generalizing i with
  | nil => cases hi
  | cons r? calls ih =>
      cases i with
      | zero =>
          obtain rfl := Option.some.inj hi
          exact Nat.add_lt_add_right h _
      | succ i => exact Nat.add_lt_add_left (ih hi) _

def budget (s : System) : Nat :=
  budgetOf s.calls

/-- **Every step draws on the budget**, also the one by which a call is given up. -/
theorem Step.budget_lt (h : s.Step s') : s'.budget < s.budget := by
  cases h with
  | move hi h => exact budgetOf_set_lt hi (Nat.succ_lt_succ h.budget_lt)
  | report hi | abort hi | giveUp hi _ => exact budgetOf_set_lt hi (Nat.succ_pos _)

/-- **No schedule goes on for ever.** -/
theorem not_endless (s : System) : ¬∃ run : Nat → System, run 0 = s ∧ ∀ n, (run n).Step (run (n + 1)) := by
  rintro ⟨run, rfl, hstep⟩
  have hspent (n : Nat) : (run n).budget + n ≤ (run 0).budget := by
    induction n with
    | zero => exact Nat.le_refl _
    | succ n ih =>
        have hlt := (hstep n).budget_lt
        omega
  have hall := hspent ((run 0).budget + 1)
  omega

theorem Step.length_eq (h : s.Step s') : s'.calls.length = s.calls.length := by
  cases h <;> exact List.length_set

theorem length_of_reaches (hreaches : (start d tasks).Reaches s) : s.calls.length = tasks.length := by
  induction hreaches with
  | refl => exact List.length_map _
  | tail _ hstep ih => rw [hstep.length_eq, ih]

/-! ### Gates without a limit -/

/-- Calls in order, at a gate where nobody has to wait. -/
structure Unlimited (s : System) : Prop where
  orderly : ∀ t, some (.running t) ∈ s.calls → t.Orderly
  free : s.gate.free = none
  unqueued : ∀ t, some (.running t) ∈ s.calls → ∀ stage ∈ t.stages, stage.ticket? = none

theorem Unlimited.set (h : s.Unlimited) (hfree : g.free = none)
    (hq : ∀ t, q? = some (.running t) → t.Orderly ∧ ∀ stage ∈ t.stages, stage.ticket? = none) :
    Unlimited ⟨g, s.calls.set i q?⟩ := by
  refine ⟨fun t ht => ?_, hfree, fun t ht => ?_⟩
  · rcases List.mem_or_eq_of_mem_set ht with hmem | heq
    · exact h.orderly t hmem
    · exact (hq t heq.symm).1
  · rcases List.mem_or_eq_of_mem_set ht with hmem | heq
    · exact h.unqueued t hmem
    · exact (hq t heq.symm).2

theorem Unlimited.step (h : s.Unlimited) (hstep : s.Step s') : s'.Unlimited := by
  cases hstep with
  | @move i t t' g hi hmove =>
      have horderly : t.Orderly := h.orderly t (List.mem_of_getElem? hi)
      have hunqueued := h.unqueued t (List.mem_of_getElem? hi)
      obtain ⟨hfree, hstages⟩ := hmove.unqueued horderly h.free hunqueued
      refine h.set hfree fun u hu => ?_
      obtain rfl := Progress.running.inj (Option.some.inj hu)
      exact ⟨horderly.step hmove, hstages⟩
  | report hi | abort hi => exact h.set h.free fun u hu => by cases hu
  | giveUp hi horder => exact h.set (Task.free_leave h.free) fun u hu => by cases hu

theorem unlimited_start (hd : d.capacity = none) (htasks : ∀ t ∈ tasks, t.Untouched) : (start d tasks).Unlimited := by
  have huntouched (t : Task) (ht : some (.running t) ∈ (start d tasks).calls) : t.Untouched := by
    obtain ⟨u, hu, heq⟩ := List.mem_map.1 ht
    obtain rfl := Progress.running.inj (Option.some.inj heq)
    exact htasks u hu
  refine ⟨fun t ht => (huntouched t ht).orderly, hd, fun t ht stage hstage => ?_⟩
  rw [(huntouched t ht).stages stage hstage]
  rfl

theorem Unlimited.reaches (h : s.Unlimited) (hreaches : s.Reaches s') : s'.Unlimited := by
  induction hreaches with
  | refl => exact h
  | tail _ hstep ih => exact ih.step hstep

/-- Whoever is at a gate without a limit gets further. -/
theorem Unlimited.exists_ready (h : s.Unlimited) (hstages : s.stages ≠ []) :
    ∃ stage ∈ s.stages, stage = .holding ∨ (stage.advance s.gate).1 ≠ stage := by
  obtain ⟨stage, hstage⟩ := List.exists_mem_of_ne_nil s.stages hstages
  refine ⟨stage, hstage, ?_⟩
  obtain ⟨i, t, hi, hmem⟩ := exists_running_of_mem_stages hstage
  cases stage with
  | holding => exact .inl rfl
  | arriving =>
      refine .inr ?_
      rw [Stage.advance]
      cases s.gate.enter? <;> simp
  | queued ticket => cases h.unqueued t (List.mem_of_getElem? hi) _ hmem

/-! ### Where a schedule ends -/

/-- As long as a call runs some call can take a step, whatever the dispatcher, if it has any permits at all. -/
theorem exists_advances (hd : d.capacity ≠ some 0) (htasks : ∀ t ∈ tasks, t.Untouched)
    (hreaches : (start d tasks).Reaches s) {t : Task} (hrunning : some (.running t) ∈ s.calls) : ∃ s', s.Advances s' := by
  cases hcapacity : d.capacity with
  | none => exact exists_advances_of_ready ((unlimited_start hcapacity htasks).reaches hreaches).exists_ready hrunning
  | some capacity =>
      have hpos : 1 ≤ capacity := by
        rw [hcapacity] at hd
        exact Nat.one_le_iff_ne_zero.2 fun hzero => hd (congrArg some hzero)
      exact ((accounted_start hcapacity htasks).reaches hreaches).exists_advances hpos hrunning

/-- **Where a schedule ends**: if no call can take a step, each call has a result or was given up. -/
theorem ended_of_stuck (hd : d.capacity ≠ some 0) (htasks : ∀ t ∈ tasks, t.Untouched)
    (hreaches : (start d tasks).Reaches s) (hstuck : ∀ s', ¬s.Advances s') (hi : i < tasks.length) :
    s.calls[i]? = some none ∨ ∃ result, s.result? i = some result := by
  rw [← length_of_reaches hreaches] at hi
  rcases hcall : s.calls[i]? with _ | _ | t | result
  · rw [List.getElem?_eq_none_iff] at hcall
    exact absurd hi (Nat.not_lt.2 hcall)
  · exact .inl rfl
  · obtain ⟨s', hs'⟩ := exists_advances hd htasks hreaches (List.mem_of_getElem? hcall)
    exact absurd hs' (hstuck s')
  · exact .inr ⟨result, result?_eq_some_iff.2 hcall⟩

end System

end Attest

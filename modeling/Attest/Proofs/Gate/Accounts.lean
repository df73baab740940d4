import Attest.Task.Basic
import Mathlib.Data.List.Nodup
import Mathlib.Data.List.Perm.Basic

/-!
The accounts of a gate: where its permits are, and whose the tickets are that it knows. They are kept for the stages
of all fields that have not ended their chains, in no order, and each thing that a field does at the gate keeps them.

A permit is in one of three places: it is free, a field holds it, or it has come back and is kept for a ticket that
waited, until the field with that ticket takes it up. That nothing is free while a ticket waits is what a gate that
hands its permits on owes to those who wait, and the reason why somebody can always go on.
-/

namespace Attest

/-- The ticket of a field that has one. -/
def Stage.ticket? : Stage → Option Nat
  | .queued ticket => some ticket
  | _ => none

namespace Gate

/-- The permits and the tickets of a gate with so many permits, when fields are at these stages. -/
structure Accounts (capacity : Nat) (g : Gate) (stages : List Stage) : Prop where
  permits : ∃ free, g.free = some free ∧ free + stages.count .holding + g.called.length = capacity
  tickets : (stages.filterMap Stage.ticket?).Perm (g.waiting ++ g.called)
  distinct : (g.waiting ++ g.called).Nodup
  issued : ∀ ticket ∈ g.waiting ++ g.called, ticket < g.nextTicket
  exhausted : g.waiting ≠ [] → g.free = some 0

variable {capacity : Nat} {g : Gate} {stages others : List Stage} {stage : Stage} {ticket : Nat}

theorem Accounts.perm (h : g.Accounts capacity stages) (hperm : stages.Perm others) : g.Accounts capacity others where
  permits := by
    obtain ⟨free, hfree, hsum⟩ := h.permits
    exact ⟨free, hfree, by rw [← hperm.count_eq]; exact hsum⟩
  tickets := (hperm.filterMap _).symm.trans h.tickets
  distinct := h.distinct
  issued := h.issued
  exhausted := h.exhausted

/-! ### Fields that have not come to the gate -/

/-- Fields on their way neither hold a permit nor wait for one. -/
theorem accounts_append_iff (hstages : ∀ stage ∈ stages, stage = .arriving) :
    g.Accounts capacity (stages ++ others) ↔ g.Accounts capacity others := by
  have hcount : stages.count .holding = 0 := by
    rw [List.count_eq_zero]
    intro hmem
    cases hstages _ hmem
  have htickets : stages.filterMap Stage.ticket? = [] := by
    rw [List.filterMap_eq_nil_iff]
    intro stage hmem
    rw [hstages stage hmem]
    rfl
  constructor
  · intro h
    obtain ⟨free, hfree, hsum⟩ := h.permits
    have hperm := h.tickets
    rw [List.filterMap_append, htickets] at hperm
    rw [List.count_append, hcount, Nat.zero_add] at hsum
    exact ⟨⟨free, hfree, hsum⟩, hperm, h.distinct, h.issued, h.exhausted⟩
  · intro h
    obtain ⟨free, hfree, hsum⟩ := h.permits
    have hperm := h.tickets
    refine ⟨⟨free, hfree, ?_⟩, ?_, h.distinct, h.issued, h.exhausted⟩
    · rw [List.count_append, hcount, Nat.zero_add]
      exact hsum
    · rw [List.filterMap_append, htickets]
      exact hperm

theorem accounts_ofDispatcher {d : Dispatcher} (hd : d.capacity = some capacity) :
    (Gate.ofDispatcher d).Accounts capacity [] where
  permits := ⟨capacity, hd, rfl⟩
  tickets := .refl _
  distinct := List.nodup_nil
  issued := by simp [ofDispatcher]
  exhausted h := absurd rfl h

theorem accounts_arriving_iff : g.Accounts capacity (.arriving :: others) ↔ g.Accounts capacity others :=
  accounts_append_iff (show ∀ stage ∈ [Stage.arriving], stage = .arriving by simp)

/-! ### Going to the gate -/

/-- A free permit is taken. -/
theorem Accounts.enter {g' : Gate} (h : g.Accounts capacity others) (henter : g.enter? = some g') :
    g'.Accounts capacity (.holding :: others) := by
  obtain ⟨free, hfree, hsum⟩ := h.permits
  cases free with
  | zero => simp [enter?, hfree] at henter
  | succ n =>
      simp only [enter?, hfree, Option.some.injEq] at henter
      subst henter
      refine ⟨⟨n, rfl, ?_⟩, h.tickets, h.distinct, h.issued, ?_⟩
      · rw [List.count_cons_self]
        simp only
        omega
      · intro hwaiting
        have hnone := h.exhausted hwaiting
        rw [hfree] at hnone
        cases hnone

/-- A ticket is taken where no permit is free. -/
theorem Accounts.join (h : g.Accounts capacity others) (henter : g.enter? = none) :
    g.join.2.Accounts capacity (.queued g.join.1 :: others) := by
  obtain ⟨free, hfree, hsum⟩ := h.permits
  have hnew : g.nextTicket ∉ g.waiting ++ g.called := fun hmem => Nat.lt_irrefl _ (h.issued _ hmem)
  have hwaiting : (g.waiting ++ [g.nextTicket] ++ g.called).Perm (g.nextTicket :: (g.waiting ++ g.called)) := by
    rw [List.append_assoc]
    exact List.perm_middle
  refine ⟨⟨free, hfree, ?_⟩, ?_, ?_, ?_, ?_⟩
  · rw [List.count_cons_of_ne (by simp)]
    exact hsum
  · exact (h.tickets.cons g.nextTicket).trans hwaiting.symm
  · exact hwaiting.nodup_iff.2 (List.nodup_cons.2 ⟨hnew, h.distinct⟩)
  · intro ticket hticket
    change ticket < g.nextTicket + 1
    rcases List.mem_cons.1 (hwaiting.mem_iff.1 hticket) with rfl | hmem
    · exact Nat.lt_succ_self _
    · exact Nat.lt_succ_of_lt (h.issued ticket hmem)
  · intro _
    cases free with
    | zero => exact hfree
    | succ n => simp [enter?, hfree] at henter

/-- The permit that is kept for a ticket is taken up. -/
theorem Accounts.answer (h : g.Accounts capacity (.queued ticket :: others)) (hcalled : g.isCalled ticket = true) :
    (g.answer ticket).Accounts capacity (.holding :: others) := by
  obtain ⟨free, hfree, hsum⟩ := h.permits
  have hmem : ticket ∈ g.called := List.contains_iff_mem.1 hcalled
  have hperm : (g.waiting ++ g.called).Perm (ticket :: (g.waiting ++ g.called.erase ticket)) :=
    ((List.perm_cons_erase hmem).append_left g.waiting).trans List.perm_middle
  refine ⟨⟨free, hfree, ?_⟩, ?_, ?_, ?_, h.exhausted⟩
  · have hlength := List.length_erase_of_mem hmem
    have hpos := List.length_pos_of_mem hmem
    rw [List.count_cons_of_ne (by simp)] at hsum
    rw [List.count_cons_self]
    simp only [Gate.answer]
    omega
  · exact (List.perm_cons ticket).1 (h.tickets.trans hperm)
  · exact (List.nodup_cons.1 (hperm.nodup_iff.1 h.distinct)).2
  · intro other hother
    exact h.issued other (hperm.mem_iff.2 (List.mem_cons_of_mem ticket hother))

/-- **Going to the gate keeps the accounts**, however far the field gets. -/
theorem Accounts.advance (h : g.Accounts capacity (stage :: others)) :
    (stage.advance g).2.Accounts capacity ((stage.advance g).1 :: others) := by
  cases stage with
  | arriving =>
      have hothers := accounts_arriving_iff.1 h
      rw [Stage.advance]
      cases henter : g.enter? with
      | none => exact hothers.join henter
      | some g' => exact hothers.enter henter
  | queued ticket =>
      rw [Stage.advance]
      by_cases hcalled : g.isCalled ticket = true
      · rw [if_pos hcalled]
        exact h.answer hcalled
      · rw [if_neg hcalled]
        exact h
  | holding => exact h

/-! ### Going away -/

/-- **A permit that comes back** is kept for the ticket that has waited longest, or is free if none waits. -/
theorem Accounts.release (h : g.Accounts capacity (.holding :: others)) : g.release.Accounts capacity others := by
  obtain ⟨free, hfree, hsum⟩ := h.permits
  rw [List.count_cons_self] at hsum
  have hperm : (others.filterMap Stage.ticket?).Perm (g.waiting ++ g.called) := h.tickets
  have hdistinct := h.distinct
  have hissued := h.issued
  have hexhausted := h.exhausted
  rw [Gate.release]
  cases hwaiting : g.waiting with
  | nil =>
      rw [hwaiting] at hperm hdistinct hissued
      refine ⟨⟨free + 1, by rw [hfree]; rfl, ?_⟩, hperm, hdistinct, hissued, fun hne => absurd rfl hne⟩
      simp only
      omega
  | cons ticket rest =>
      rw [hwaiting] at hperm hdistinct hissued hexhausted
      have hmoved : (ticket :: rest ++ g.called).Perm (rest ++ ticket :: g.called) := List.perm_middle.symm
      refine ⟨⟨free, hfree, ?_⟩, hperm.trans hmoved, hmoved.nodup_iff.1 hdistinct, ?_, ?_⟩
      · simp only [List.length_cons]
        omega
      · intro other hother
        exact hissued other (hmoved.mem_iff.2 hother)
      · intro _
        exact hexhausted (List.cons_ne_nil ticket rest)

/-- A ticket that still waits is given up. -/
theorem Accounts.forgo (h : g.Accounts capacity (.queued ticket :: others)) (hcalled : g.isCalled ticket = false) :
    ({ g with waiting := g.waiting.erase ticket } : Gate).Accounts capacity others := by
  obtain ⟨free, hfree, hsum⟩ := h.permits
  have hnone : ticket ∉ g.called := fun hmem => by
    rw [isCalled, List.contains_iff_mem.2 hmem] at hcalled
    cases hcalled
  have hmem : ticket ∈ g.waiting := by
    have hticket : ticket ∈ g.waiting ++ g.called := h.tickets.mem_iff.1 List.mem_cons_self
    exact (List.mem_append.1 hticket).resolve_right hnone
  have hperm : (g.waiting ++ g.called).Perm (ticket :: (g.waiting.erase ticket ++ g.called)) :=
    (List.perm_cons_erase hmem).append_right g.called
  refine ⟨⟨free, hfree, ?_⟩, ?_, ?_, ?_, ?_⟩
  · rw [List.count_cons_of_ne (by simp)] at hsum
    exact hsum
  · exact (List.perm_cons ticket).1 (h.tickets.trans hperm)
  · exact (List.nodup_cons.1 (hperm.nodup_iff.1 h.distinct)).2
  · intro other hother
    exact h.issued other (hperm.mem_iff.2 (List.mem_cons_of_mem ticket hother))
  · intro _
    exact h.exhausted (List.ne_nil_of_mem hmem)

/-- **Going away keeps the accounts**, wherever the field stands. -/
theorem Accounts.drop (h : g.Accounts capacity (stage :: others)) : (stage.drop g).Accounts capacity others := by
  cases stage with
  | arriving => exact accounts_arriving_iff.1 h
  | queued ticket =>
      rw [Stage.drop, Gate.leave]
      cases hcalled : g.isCalled ticket with
      | true => exact (h.answer hcalled).release
      | false => exact h.forgo hcalled
  | holding => exact h.release

/-! ### Who can go on -/

/-- When nobody is left all permits are free. -/
theorem Accounts.free_eq (h : g.Accounts capacity []) : g.free = some capacity := by
  obtain ⟨free, hfree, hsum⟩ := h.permits
  have hnil : g.waiting ++ g.called = [] := List.nil_perm.1 h.tickets
  have hcalled : g.called = [] := (List.append_eq_nil_iff.1 hnil).2
  rw [hfree]
  simpa [hcalled] using hsum

/-- A ticket for which a permit is kept belongs to a field. -/
theorem Accounts.queued_mem (h : g.Accounts capacity stages) (hticket : ticket ∈ g.called) :
    .queued ticket ∈ stages := by
  have hmem : ticket ∈ stages.filterMap Stage.ticket? := h.tickets.mem_iff.2 (List.mem_append_right _ hticket)
  obtain ⟨stage, hstage, heq⟩ := List.mem_filterMap.1 hmem
  cases stage with
  | queued other =>
      obtain rfl := Option.some.inj heq
      exact hstage
  | arriving => cases heq
  | holding => cases heq

/-- **Somebody can go on**: of fields at a gate that has permits at all, one holds a permit or gets further when it
goes to the gate. -/
theorem Accounts.exists_ready (h : g.Accounts capacity stages) (hcapacity : 1 ≤ capacity) (hstages : stages ≠ []) :
    ∃ stage ∈ stages, stage = .holding ∨ (stage.advance g).1 ≠ stage := by
  obtain ⟨free, hfree, hsum⟩ := h.permits
  by_cases hholding : Stage.holding ∈ stages
  · exact ⟨_, hholding, .inl rfl⟩
  by_cases harriving : Stage.arriving ∈ stages
  · refine ⟨_, harriving, .inr ?_⟩
    rw [Stage.advance]
    cases g.enter? <;> simp
  -- Everybody is queued. Then a permit is kept for one of them, for otherwise all would be lost.
  have hcalled : g.called ≠ [] := by
    intro hnone
    obtain ⟨stage, hstage⟩ := List.exists_mem_of_ne_nil stages hstages
    cases stage with
    | holding => exact hholding hstage
    | arriving => exact harriving hstage
    | queued ticket =>
        have hticket : ticket ∈ g.waiting ++ g.called :=
          h.tickets.mem_iff.1 (List.mem_filterMap.2 ⟨_, hstage, rfl⟩)
        rw [hnone, List.append_nil] at hticket
        have hzero := h.exhausted (List.ne_nil_of_mem hticket)
        have hcount : stages.count .holding = 0 := List.count_eq_zero.2 hholding
        rw [hfree] at hzero
        obtain rfl := Option.some.inj hzero
        simp [hnone, hcount] at hsum
        omega
  obtain ⟨ticket, hticket⟩ := List.exists_mem_of_ne_nil g.called hcalled
  refine ⟨_, h.queued_mem hticket, .inr ?_⟩
  have hkept : g.isCalled ticket = true := List.contains_iff_mem.2 hticket
  simp [Stage.advance, hkept]

end Gate

end Attest

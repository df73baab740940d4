import Attest.Proofs.Call.Raised
import Attest.Proofs.Interleaving.Poll
import Attest.Proofs.Validator.Report

/-!
Any number of calls at one gate, whose steps come in any order. A call may be given up at any time, and one that has
come to its end is left as it is.

What a call comes to is fixed before its first step. The invariant looks at each call alone: as it stands, it would
come to the same report as the call did from the start, or to none as the call did, and it aborts with nothing that
the call could not have aborted with. The gate decides only when a step may be taken, and no step asks what has
become of the other calls.
-/

namespace Attest

/-- Calls at a gate, nothing standing for a call that was given up. -/
structure System where
  gate : Gate
  calls : List (Option Progress)

namespace System

/-- Calls that have not taken a step, at the gate of a dispatcher. -/
def start (d : Dispatcher) (tasks : List Task) : System where
  gate := .ofDispatcher d
  calls := tasks.map fun t => some (.running t)

/-- A step of one call. -/
inductive Step (s : System) : System → Prop
  | move {i t t' g} (hi : s.calls[i]? = some (some (.running t))) (h : t.Step s.gate t' g) :
      Step s ⟨g, s.calls.set i (some (.running t'))⟩
  | report {i r} (hi : s.calls[i]? = some (some (.running (.reported r)))) :
      Step s ⟨s.gate, s.calls.set i (some (.ended (.ok r)))⟩
  | abort {i a} (hi : s.calls[i]? = some (some (.running (.aborting a)))) :
      Step s ⟨s.gate, s.calls.set i (some (.ended (.error a)))⟩
  | giveUp {i t order} (hi : s.calls[i]? = some (some (.running t))) (h : order.Perm t.stages) :
      Step s ⟨Task.leave order s.gate, s.calls.set i none⟩

/-- Any number of steps of any calls. -/
def Reaches (s s' : System) : Prop :=
  Relation.ReflTransGen Step s s'

/-- The result of a call that has ended. -/
def result? (s : System) (i : Nat) : Option (Except Abort Report) :=
  match s.calls[i]? with
  | some (some (.ended result)) => some result
  | _ => none

theorem result?_eq_some_iff {s : System} {i : Nat} {result : Except Abort Report} :
    s.result? i = some result ↔ s.calls[i]? = some (some (.ended result)) := by
  rw [result?]
  split
  next h => simp [h]
  next h => simpa using h result

end System

/-! ### What a call comes to -/

/-- A call that comes to what it came to from the start, or still will. -/
def Progress.Faithful (t : Task) : Progress → Prop
  | .running t' =>
      (∀ report, t'.result = .ok report ↔ t.result = .ok report) ∧ ∀ abort, t'.Aborts abort → t.Aborts abort
  | .ended (.ok report) => t.result = .ok report
  | .ended (.error abort) => (∀ report, t.result ≠ .ok report) ∧ t.Aborts abort

namespace Progress

variable {t t' : Task}

theorem faithful_start : Faithful t (.running t) :=
  ⟨fun _ => .rfl, fun _ h => h⟩

theorem Faithful.move {g g' : Gate} {u : Task} (hfaithful : Faithful t (.running t')) (h : t'.Step g u g') :
    Faithful t (.running u) :=
  ⟨fun report => (h.result_iff report).trans (hfaithful.1 report), fun abort ha => hfaithful.2 abort (h.aborts ha)⟩

theorem Faithful.report {report : Report} (hfaithful : Faithful t (.running (.reported report))) :
    Faithful t (.ended (.ok report)) :=
  (hfaithful.1 report).1 (Task.result_reported report)

theorem Faithful.abort {abort : Abort} (hfaithful : Faithful t (.running (.aborting abort))) :
    Faithful t (.ended (.error abort)) := by
  refine ⟨fun report h => ?_, hfaithful.2 abort (.aborting abort)⟩
  have hresult := (hfaithful.1 report).2 h
  rw [Task.result_aborting] at hresult
  cases hresult

end Progress

namespace System

/-- Each call that has not been given up is faithful to the task that it started with. -/
def Faithful (tasks : List Task) (s : System) : Prop :=
  ∀ (i : Nat) (p : Progress), s.calls[i]? = some (some p) → ∃ t, tasks[i]? = some t ∧ p.Faithful t

theorem faithful_start (d : Dispatcher) (tasks : List Task) : (start d tasks).Faithful tasks := by
  intro i p hp
  rw [start, List.getElem?_map] at hp
  obtain ⟨t, ht, heq⟩ := Option.map_eq_some_iff.1 hp
  obtain rfl := Option.some.inj heq
  exact ⟨t, ht, Progress.faithful_start⟩

/-- Putting a faithful call in the place of another, or giving it up, leaves all calls faithful. -/
theorem Faithful.set {tasks : List Task} {s : System} (h : s.Faithful tasks) {i : Nat} {p? : Option Progress} {g : Gate}
    (hp : ∀ p, p? = some p → ∃ t, tasks[i]? = some t ∧ p.Faithful t) : Faithful tasks ⟨g, s.calls.set i p?⟩ := by
  intro j q hq
  rw [List.getElem?_set] at hq
  by_cases hij : i = j
  · subst hij
    rw [if_pos rfl] at hq
    split at hq
    · exact hp q (Option.some.inj hq)
    · cases hq
  · rw [if_neg hij] at hq
    exact h j q hq

/-- **A step leaves every call faithful**, the one that takes it and all others. -/
theorem Faithful.step {tasks : List Task} {s s' : System} (h : s.Faithful tasks) (hstep : s.Step s') :
    s'.Faithful tasks := by
  cases hstep with
  | move hi hmove =>
      obtain ⟨t, ht, hfaithful⟩ := h _ _ hi
      exact h.set fun p hp => ⟨t, ht, Option.some.inj hp ▸ hfaithful.move hmove⟩
  | report hi =>
      obtain ⟨t, ht, hfaithful⟩ := h _ _ hi
      exact h.set fun p hp => ⟨t, ht, Option.some.inj hp ▸ hfaithful.report⟩
  | abort hi =>
      obtain ⟨t, ht, hfaithful⟩ := h _ _ hi
      exact h.set fun p hp => ⟨t, ht, Option.some.inj hp ▸ hfaithful.abort⟩
  | giveUp => exact h.set fun p hp => by cases hp

theorem Faithful.reaches {tasks : List Task} {s s' : System} (h : s.Faithful tasks) (hreaches : s.Reaches s') :
    s'.Faithful tasks := by
  induction hreaches with
  | refl => exact h
  | tail _ hstep ih => exact ih.step hstep

/-! ### Rounds -/

/-- One round of a call. -/
def turn (s : System) (i : Nat) : System :=
  match s.calls[i]? with
  | some (some p) =>
      let r := Run.poll ⟨p, s.gate, []⟩
      ⟨r.gate, s.calls.set i (some r.progress)⟩
  | _ => s

theorem set_self {s : System} {i : Nat} {p? : Option Progress} (hi : s.calls[i]? = some p?) :
    (⟨s.gate, s.calls.set i p?⟩ : System) = s := by
  obtain ⟨hlt, rfl⟩ := List.getElem?_eq_some_iff.1 hi
  rw [List.set_getElem_self]

theorem getElem?_set_self {s : System} {i : Nat} {p? : Option Progress} (hi : s.calls[i]? = some p?)
    (q? : Option Progress) : (s.calls.set i q?)[i]? = some q? := by
  obtain ⟨hlt, -⟩ := List.getElem?_eq_some_iff.1 hi
  exact List.getElem?_set_self hlt

/-- Steps of one task are steps of the system. -/
theorem reaches_of_steps {s : System} {i : Nat} {t t' : Task} {g : Gate}
    (hi : s.calls[i]? = some (some (.running t))) (h : t.Steps s.gate t' g) :
    s.Reaches ⟨g, s.calls.set i (some (.running t'))⟩ := by
  have hpair (q : Task × Gate)
      (h : Relation.ReflTransGen (fun p q : Task × Gate => p.1.Step p.2 q.1 q.2) (t, s.gate) q) :
      s.Reaches ⟨q.2, s.calls.set i (some (.running q.1))⟩ := by
    induction h with
    | refl =>
        rw [set_self hi]
        exact .refl
    | @tail p q _ hstep ih =>
        have hmove := Step.move (s := ⟨p.2, s.calls.set i (some (.running p.1))⟩) (getElem?_set_self hi _) hstep
        rw [List.set_set] at hmove
        exact ih.tail hmove
  exact hpair (t', g) h

/-- **A round is a sequence of steps.** -/
theorem reaches_turn (s : System) (i : Nat) : s.Reaches (s.turn i) := by
  rw [turn]
  rcases hi : s.calls[i]? with _ | _ | p
  · exact .refl
  · exact .refl
  · cases p with
    | ended result =>
        change s.Reaches ⟨s.gate, s.calls.set i (some (.ended result))⟩
        rw [set_self hi]
        exact .refl
    | running t =>
        -- The poll itself, and one more step that ends the call when the poll leaves a report or an abort.
        have hpoll := reaches_of_steps hi (t.steps_poll s.gate)
        have hset := getElem?_set_self hi (some (.running (Task.settled (t.poll s.gate).result)))
        simp only [Run.poll]
        rcases hresult : (t.poll s.gate).result with a | t'
        · rw [hresult] at hpoll hset
          have hlast := Step.abort (s := ⟨(t.poll s.gate).gate, _⟩) hset
          rw [List.set_set] at hlast
          exact hpoll.tail hlast
        · rw [hresult] at hpoll hset
          cases t' with
          | reported r =>
              have hlast := Step.report (s := ⟨(t.poll s.gate).gate, _⟩) hset
              rw [List.set_set] at hlast
              exact hpoll.tail hlast
          | aborting _ | telling _ _ | field _ _ _ _ _ | nesting _ _ | all _ => exact hpoll

theorem reaches_turns (s : System) (order : List Nat) : s.Reaches (order.foldl turn s) := by
  induction order generalizing s with
  | nil => exact .refl
  | cons i order ih => exact (s.reaches_turn i).trans (ih (s.turn i))

end System

end Attest

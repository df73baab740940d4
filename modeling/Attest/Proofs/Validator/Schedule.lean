import Attest.Proofs.Interleaving.System

/-!
Calls on one validator that share a dispatcher, under any schedule. Each comes to what it comes to when its fields
are done one after the other in the order in which they are declared.
-/

namespace Attest

/-- What a call asks of a validator. -/
structure Request where
  context : Context
  schema : String
  value : Json

namespace Validator

/-- The calls of requests. -/
def tasks (v : Validator) (requests : List Request) : List Task :=
  requests.map fun q => v.task q.context q.schema q.value

/-- A faithful call that has ended has come to its report, or to an abort that it raises when it has none. -/
theorem result_of_faithful {v : Validator} {ctx : Context} {schema : String} {value : Json}
    {result : Except Abort Report} (h : Progress.Faithful (v.task ctx schema value) (.ended result)) :
    (∀ report, v.report ctx schema value = .ok report → result = .ok report) ∧
      ∀ abort, v.report ctx schema value = .error abort →
        ∃ other, result = .error other ∧ (v.call ctx).Raises schema value other := by
  cases result with
  | ok report =>
      have hreport : v.report ctx schema value = .ok report := h
      exact ⟨fun other hother => hreport.symm.trans hother, fun abort habort => by cases hreport.symm.trans habort⟩
  | error abort =>
      obtain ⟨hnone, haborts⟩ := h
      exact ⟨fun report hreport => absurd hreport (hnone report),
        fun _ _ => ⟨abort, rfl, Call.raises_of_aborts haborts⟩⟩

/-- **Independence of the schedule.** However the steps of calls follow each other, and however many permits the
dispatcher has: a call that ends has the report that it comes to when its fields are done in order, if it comes to
one; otherwise it has aborted too, with something that a field or an object of that call raises where it is. -/
theorem result_of_schedule {v : Validator} {d : Dispatcher} {requests : List Request} {s : System} {i : Nat}
    {request : Request} {result : Except Abort Report} (hs : (System.start d (v.tasks requests)).Reaches s)
    (hrequest : requests[i]? = some request) (hresult : s.result? i = some result) :
    (∀ report, v.report request.context request.schema request.value = .ok report → result = .ok report) ∧
      ∀ abort, v.report request.context request.schema request.value = .error abort →
        ∃ other, result = .error other ∧ (v.call request.context).Raises request.schema request.value other := by
  have hfaithful := (System.faithful_start d (v.tasks requests)).reaches hs
  obtain ⟨t, ht, hcall⟩ := hfaithful i _ (System.result?_eq_some_iff.1 hresult)
  rw [tasks, List.getElem?_map, hrequest] at ht
  obtain rfl := Option.some.inj ht
  exact result_of_faithful hcall

/-- A context that gives control back before each message. -/
def slowly (v : Validator) : Context :=
  (v.context (.fixed ⟨0, 0⟩)).withResolver fun key _ _ => .pause (.done key)

/-- Two orders and a call that asks for a schema that is not there, polled in turn with a single permit. -/
def crowd : List Request :=
  [⟨slowly (orders .always 1), "Order", brokenOrder⟩, ⟨slowly (orders .always 1), "Order", brokenOrder⟩,
    ⟨slowly (orders .always 1), "Bill", .null⟩]

def crowdAfter (rounds : Nat) : System :=
  (List.replicate rounds [2, 1, 0]).flatten.foldl System.turn (.start ⟨some 1⟩ ((orders .always 1).tasks crowd))

theorem result_of_schedule_crowd :
    (crowdAfter 12).result? 0 = some (.ok brokenOrderReport) ∧
      (orders .always 1).report (slowly (orders .always 1)) "Order" brokenOrder = .ok brokenOrderReport ∧
      ∃ other, (crowdAfter 12).result? 2 = some (.error other) ∧
        ((orders .always 1).call (slowly (orders .always 1))).Raises "Bill" .null other := by
  have hreaches : (System.start ⟨some 1⟩ ((orders .always 1).tasks crowd)).Reaches (crowdAfter 12) := by
    rw [crowdAfter]
    exact System.reaches_turns _ _
  have hreport : (orders .always 1).report (slowly (orders .always 1)) "Order" brokenOrder = .ok brokenOrderReport := by
    decide +kernel
  have hfirst : ∃ result, (crowdAfter 12).result? 0 = some result := Option.isSome_iff_exists.1 (by decide +kernel)
  have hlast : ∃ result, (crowdAfter 12).result? 2 = some result := Option.isSome_iff_exists.1 (by decide +kernel)
  obtain ⟨first, hfirst⟩ := hfirst
  obtain ⟨last, hlast⟩ := hlast
  have horder : crowd[0]? = some ⟨slowly (orders .always 1), "Order", brokenOrder⟩ := rfl
  have hbill : crowd[2]? = some ⟨slowly (orders .always 1), "Bill", .null⟩ := rfl
  have habort : (orders .always 1).report (slowly (orders .always 1)) "Bill" .null =
      .error (.unknownSchema "Bill") := by
    decide +kernel
  have hok := (result_of_schedule hreaches horder hfirst).1 _ hreport
  obtain ⟨other, hother, hraises⟩ := (result_of_schedule hreaches hbill hlast).2 _ habort
  exact ⟨hok ▸ hfirst, hreport, other, hother ▸ hlast, hraises⟩

/-! ### The rounds of a single call -/

theorem faithful_poll {t : Task} {r : Run} (h : r.progress.Faithful t) : r.poll.progress.Faithful t := by
  have hsystem : System.Faithful [t] ⟨r.gate, [some r.progress]⟩ := by
    intro i p hp
    cases i with
    | zero =>
        obtain rfl := Option.some.inj (Option.some.inj hp)
        exact ⟨t, rfl, h⟩
    | succ i => cases hp
  have hpolled : (System.turn ⟨r.gate, [some r.progress]⟩ 0).calls[0]? = some (some r.poll.progress) := by
    obtain ⟨progress, gate, notes⟩ := r
    cases progress with
    | running t => rfl
    | ended result => rfl
  obtain ⟨u, hu, hfaithful⟩ := hsystem.reaches (System.reaches_turn _ 0) 0 _ hpolled
  obtain rfl := Option.some.inj hu
  exact hfaithful

theorem faithful_polls {t : Task} {r : Run} (h : r.progress.Faithful t) (n : Nat) :
    (r.polls n).progress.Faithful t := by
  induction n generalizing r with
  | zero => exact h
  | succ n ih =>
      rw [Run.polls]
      split
      · exact h
      · exact ih (faithful_poll h)

/-- A call that is polled by itself, however often, comes to no other end than under any other schedule. -/
theorem result_of_polls {v : Validator} {d : Dispatcher} {ctx : Context} {schema : String} {value : Json} {n : Nat}
    {result : Except Abort Report}
    (h : ((Run.start (v.task ctx schema value) (.ofDispatcher d)).polls n).result? = some result) :
    (∀ report, v.report ctx schema value = .ok report → result = .ok report) ∧
      ∀ abort, v.report ctx schema value = .error abort →
        ∃ other, result = .error other ∧ (v.call ctx).Raises schema value other := by
  have hfaithful := faithful_polls (r := Run.start (v.task ctx schema value) (.ofDispatcher d))
    Progress.faithful_start n
  rw [Run.result?] at h
  split at h
  next hended =>
    obtain rfl := Option.some.inj h
    rw [hended] at hfaithful
    exact result_of_faithful hfaithful
  next => cases h

end Validator

end Attest

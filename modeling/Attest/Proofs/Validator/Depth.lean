import Attest.Proofs.Call.Depth
import Attest.Proofs.Interleaving.Termination
import Attest.Proofs.Validator.Schedule

/-!
The limit on the depth, exactly. The schemas may refer to themselves and to each other as they like: every call ends,
and one whose plans ask no predicate aborts for no other reason than that a value goes deeper than is allowed.
-/

namespace Attest.Validator

/-- The same validator with another limit on the depth. -/
def withMaxDepth (v : Validator) (maxDepth : Nat) : Validator :=
  { v with settings := { v.settings with maxDepth := maxDepth } }

/-- A call for a request comes to a result under some schedule, on its own or among others. -/
def MayComeTo (v : Validator) (request : Request) (result : Except Abort Report) : Prop :=
  ∃ (d : Dispatcher) (requests : List Request) (s : System) (i : Nat), requests[i]? = some request ∧
    (System.start d (v.tasks requests)).Reaches s ∧ s.result? i = some result

variable {v : Validator} {request : Request} {result : Except Abort Report} {start : Plan}

theorem MayComeTo.faithful (h : v.MayComeTo request result) :
    Progress.Faithful (v.task request.context request.schema request.value) (.ended result) := by
  obtain ⟨d, requests, s, i, hrequest, hreaches, hresult⟩ := h
  have hfaithful := (System.faithful_start d (v.tasks requests)).reaches hreaches
  obtain ⟨t, ht, hcall⟩ := hfaithful i _ (System.result?_eq_some_iff.1 hresult)
  rw [tasks, List.getElem?_map, hrequest] at ht
  obtain rfl := Option.some.inj ht
  exact hcall

/-- A call comes to a report under no schedule, or under every schedule to the same. -/
theorem MayComeTo.exists_report_iff (h : v.MayComeTo request result) :
    (∃ report, result = .ok report) ↔
      ∃ report, v.report request.context request.schema request.value = .ok report := by
  have hfaithful := h.faithful
  cases result with
  | ok report => exact iff_of_true ⟨report, rfl⟩ ⟨report, hfaithful⟩
  | error abort => exact iff_of_false (fun ⟨_, hother⟩ => by cases hother) fun ⟨report, hreport⟩ => hfaithful.1 report hreport

/-- The call has a report exactly where no object is too deep. -/
theorem exists_report_iff_shallow (hclosed : v.plans.Closed) (hbuiltIn : v.plans.BuiltIn)
    (hstart : v.plans.get? request.schema = some start) :
    (∃ report, v.report request.context request.schema request.value = .ok report) ↔
      ∀ level plan object path, (v.call request.context).Descends start request.value level plan object path →
        level < v.settings.maxDepth + 1 := by
  have hcompletes : (v.call request.context).Completes (v.settings.maxDepth + 1) start request.value ↔ _ :=
    Call.completes_iff_shallow hclosed hbuiltIn (PlanSet.mem_of_get? hstart)
  have hfields : (∃ report, v.report request.context request.schema request.value = .ok report) ↔
      ∃ report, ((v.call request.context).fields (v.settings.maxDepth + 1) start request.value .root).result =
        .ok report := by
    simp only [report, task_eq hstart]
  rw [hfields, Call.exists_report_iff, hcompletes]

/-- A report stays the same under a higher limit. -/
theorem report_of_higher_limit {ctx : Context} {schema : String} {value : Json} {report : Report} {deeper : Nat}
    (hdeeper : v.settings.maxDepth ≤ deeper) (h : v.report ctx schema value = .ok report) :
    (v.withMaxDepth deeper).report ctx schema value = .ok report := by
  obtain ⟨plan, hplan, hresult⟩ := exists_plan_of_report h
  have hplan' : (v.withMaxDepth deeper).plans.get? schema = some plan := hplan
  have hplans : ((v.withMaxDepth deeper).call ctx).plans = (v.call ctx).plans := rfl
  rw [Validator.report, task_eq hplan']
  exact Call.result_of_deeper hplans rfl rfl (Nat.succ_le_succ hdeeper) hresult

/-- However the calls for requests follow each other's steps, at a dispatcher that has a permit at all, they end. -/
theorem calls_end (v : Validator) {d : Dispatcher} (hd : d.capacity ≠ some 0) (requests : List Request) :
    (¬∃ run : Nat → System, run 0 = System.start d (v.tasks requests) ∧ ∀ n, (run n).Step (run (n + 1))) ∧
      ∀ s, (System.start d (v.tasks requests)).Reaches s → (∀ s', ¬s.Advances s') →
        ∀ i < requests.length, s.calls[i]? = some none ∨ ∃ result, s.result? i = some result := by
  have htasks : ∀ t ∈ v.tasks requests, t.Untouched := by
    intro t ht
    obtain ⟨q, -, rfl⟩ := List.mem_map.1 ht
    exact Call.untouched_task _ _ _
  refine ⟨System.not_endless _, fun s hreaches hstuck i hi => ?_⟩
  rw [← show (v.tasks requests).length = requests.length from List.length_map _] at hi
  exact System.ended_of_stuck hd htasks hreaches hstuck hi

/-- **The limit on the depth.** The plans that schemas without custom rules compile to refer only to each other.
However calls on them follow each other's steps, at a dispatcher that has a permit at all: no schedule goes on for
ever, and where none can go on each call that was not given up has ended. One that asks for any of the schemas has
ended with an abort exactly if a walk through its value without a limit looks into more values one below the other
than are allowed, and the abort then names the limit and the place of an object that is one level too deep. So a
value that is nested no deeper than that has a report, and the report stays the same under a higher limit. -/
theorem too_deep_iff {c : Compiler} {store : PatternStore} {schemas : List Schema} (hstore : store.Sound)
    (hcompiled : ((c.compile schemas).run store).1 = .ok v.plans)
    (hcustom : ∀ s ∈ schemas, ∀ f ∈ s.fields, ∀ t ∈ f.steps, ∀ name, t.rule ≠ .custom name)
    (hstart : v.plans.get? request.schema = some start) :
    v.plans.Closed ∧
      (∀ (d : Dispatcher) (requests : List Request), d.capacity ≠ some 0 →
        (¬∃ run : Nat → System, run 0 = System.start d (v.tasks requests) ∧ ∀ n, (run n).Step (run (n + 1))) ∧
        ∀ s, (System.start d (v.tasks requests)).Reaches s → (∀ s', ¬s.Advances s') →
          ∀ i < requests.length, s.calls[i]? = some none ∨ ∃ result, s.result? i = some result) ∧
      ∀ result, v.MayComeTo request result →
        ((∃ abort, result = .error abort) ↔ ∃ level plan object path,
          (v.call request.context).Descends start request.value level plan object path ∧
            v.settings.maxDepth + 1 ≤ level) ∧
        (∀ abort, result = .error abort → ∃ plan object path,
          (v.call request.context).Descends start request.value (v.settings.maxDepth + 1) plan object path ∧
            abort = .tooDeep path.text v.settings.maxDepth) ∧
        (request.value.nesting ≤ v.settings.maxDepth → ∃ report, result = .ok report) ∧
        ∀ report, result = .ok report → ∀ deeper, v.settings.maxDepth ≤ deeper →
          ∀ other, (v.withMaxDepth deeper).MayComeTo request other → other = .ok report := by
  have hclosed := Compiler.closed_of_compile hstore hcompiled
  have hbuiltIn := Compiler.builtIn_of_compile hstore hcompiled hcustom
  have hshallow := exists_report_iff_shallow hclosed hbuiltIn hstart
  refine ⟨hclosed, fun d requests hd => v.calls_end hd requests, fun result hmay => ⟨?_, ?_, ?_, ?_⟩⟩
  · have hside : (∃ abort, result = .error abort) ↔ ¬∃ report, result = .ok report := by
      cases result <;> simp
    rw [hside, hmay.exists_report_iff, hshallow]
    simp only [not_forall, Nat.not_lt, exists_prop]
  · rintro abort rfl
    have hraises := Call.raises_of_aborts hmay.faithful.2
    exact hraises.exists_too_deep hclosed hbuiltIn hstart
  · intro hnesting
    refine hmay.exists_report_iff.2 (hshallow.2 fun level plan object path h => ?_)
    exact Nat.lt_succ_of_le (Nat.le_trans h.level_le hnesting)
  · rintro report rfl deeper hdeeper other hother
    have hreport : v.report request.context request.schema request.value = .ok report := hmay.faithful
    exact (result_of_faithful hother.faithful).1 report (report_of_higher_limit hdeeper hreport)

/-- Links with a name, each of which may have another one in it. -/
def links : List Schema :=
  [⟨"Link", [⟨"name", false, [⟨.notBlank, none⟩], .empty, none⟩, ⟨"next", true, [], .empty, some ⟨"Link", false⟩⟩]⟩]

def linkPlan : Plan :=
  ⟨"Link", [⟨"name", false, [.ofStep ⟨.notBlank, none⟩ .builtIn], .empty, none⟩,
    ⟨"next", true, [], .empty, some ⟨"Link", false⟩⟩], []⟩

/-- A link may have one in it, but that must not have another. -/
def shortChain : Validator where
  plans := ⟨[linkPlan]⟩
  settings := { Settings.standard with maxDepth := 1 }
  dispatcher := ⟨some 1⟩

def threeLinks : Request where
  context := slowly shortChain
  schema := "Link"
  value := .object [("name", .string " "), ("next", .object [("name", .string "b"), ("next", .object [])])]

def threeLinksAfter (rounds : Nat) : System :=
  (List.replicate rounds 0).foldl System.turn (.start ⟨some 1⟩ (shortChain.tasks [threeLinks]))

theorem too_deep_iff_threeLinks :
    ((Compiler.compile ⟨.empty, Pattern.defaultLimit⟩ links).run .empty).1 = .ok shortChain.plans ∧
      (∀ s ∈ links, ∀ f ∈ s.fields, ∀ t ∈ f.steps, ∀ name, t.rule ≠ .custom name) ∧
      shortChain.plans.get? "Link" = some linkPlan ∧
      ∃ path : Path, shortChain.MayComeTo threeLinks (.error (.tooDeep path.text 1)) ∧
        ∃ plan object, (shortChain.call threeLinks.context).Descends linkPlan threeLinks.value 2 plan object path := by
  have hcompiled : ((Compiler.compile ⟨.empty, Pattern.defaultLimit⟩ links).run .empty).1 = .ok shortChain.plans := rfl
  have hcustom : ∀ s ∈ links, ∀ f ∈ s.fields, ∀ t ∈ f.steps, ∀ name, t.rule ≠ .custom name := by
    simp [links]
  have hstart : shortChain.plans.get? threeLinks.schema = some linkPlan := rfl
  obtain ⟨-, -, hends⟩ := too_deep_iff PatternStore.sound_empty hcompiled hcustom hstart
  have hfinished : ∃ result, (threeLinksAfter 6).result? 0 = some result := Option.isSome_iff_exists.1 (by decide +kernel)
  obtain ⟨result, hresult⟩ := hfinished
  have hmay : shortChain.MayComeTo threeLinks result :=
    ⟨⟨some 1⟩, [threeLinks], threeLinksAfter 6, 0, rfl, System.reaches_turns _ _, hresult⟩
  obtain ⟨hdeep, hplace, -, -⟩ := hends result hmay
  have hnext : linkPlan.fields[1] ∈ linkPlan.fields := List.getElem_mem _
  have hdescends : (shortChain.call threeLinks.context).Descends linkPlan threeLinks.value 2 linkPlan (.object [])
      ((Path.root.field "next").field "next") :=
    .nested (.nested .start hnext rfl rfl (List.mem_singleton_self _) rfl) hnext rfl rfl (List.mem_singleton_self _) rfl
  obtain ⟨abort, rfl⟩ := hdeep.2 ⟨2, _, _, _, hdescends, Nat.le_refl 2⟩
  obtain ⟨plan, object, path, hpath, rfl⟩ := hplace abort rfl
  exact ⟨hcompiled, hcustom, hstart, path, hmay, plan, object, hpath⟩

end Attest.Validator

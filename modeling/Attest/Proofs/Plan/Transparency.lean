import Attest.Proofs.Plan.Settling

/-!
A store of patterns is never noticed. It answers each pattern as vetting without a store would, so that nothing can
be told from what comes out of a compilation about the patterns that were vetted before it.

For compilations this is the property `Steady`: the same result from whatever sound stores, and a store at the end
that comes of vetting some more patterns. Like `Settles` it has one rule for each way of putting work together.
-/

namespace Attest

/-- Work whose result does not depend on the sound store that it starts from, and that does nothing to a store but vet
patterns with it. -/
structure Compilation.Steady (work : Compilation α) : Prop where
  result : ∀ store store' : PatternStore, store.Sound → store'.Sound → (work.run store).1 = (work.run store').1
  grows : ∀ store : PatternStore, ∃ requests, (work.run store).2 = (store.vetAll requests).2

namespace Compilation

variable {α β : Type} {work : Compilation α}

theorem Steady.sound (h : Steady work) {store : PatternStore} (hstore : store.Sound) : (work.run store).2.Sound := by
  obtain ⟨requests, hrequests⟩ := h.grows store
  rw [hrequests]
  exact (hstore.vetAll requests).2

theorem steady_pure (a : α) : Steady (pure a) where
  result _ _ _ _ := rfl
  grows _ := ⟨[], rfl⟩

theorem steady_throw (error : SchemaError) : Steady (throw error : Compilation α) where
  result _ _ _ _ := rfl
  grows _ := ⟨[], rfl⟩

/-- What the second piece of work makes of the answer of the first, if that has one. -/
theorem Steady.bind {next : α → Compilation β} (h : Steady work) (hnext : ∀ a, Steady (next a)) :
    Steady (work >>= next) where
  result store store' hstore hstore' := by
    have hfirst := h.result store store' hstore hstore'
    have hsound := h.sound hstore
    have hsound' := h.sound hstore'
    rw [run_bind, run_bind]
    rcases hrun : work.run store with ⟨error | a, mid⟩
    · rcases hrun' : work.run store' with ⟨error' | a', mid'⟩
      · rw [hrun, hrun'] at hfirst
        exact congrArg Except.error (Except.error.inj hfirst)
      · rw [hrun, hrun'] at hfirst
        cases hfirst
    · rcases hrun' : work.run store' with ⟨error' | a', mid'⟩
      · rw [hrun, hrun'] at hfirst
        cases hfirst
      · rw [hrun, hrun'] at hfirst
        rw [hrun] at hsound
        rw [hrun'] at hsound'
        obtain rfl := Except.ok.inj hfirst
        exact (hnext a).result mid mid' hsound hsound'
  grows store := by
    obtain ⟨requests, hrequests⟩ := h.grows store
    rw [run_bind]
    rcases hrun : work.run store with ⟨error | a, mid⟩
    · rw [hrun] at hrequests
      exact ⟨requests, hrequests⟩
    · rw [hrun] at hrequests
      obtain ⟨more, hmore⟩ := (hnext a).grows mid
      refine ⟨requests ++ more, ?_⟩
      rw [PatternStore.vetAll_append, ← hrequests]
      exact hmore

theorem Steady.map {f : α → β} (h : Steady work) : Steady (work >>= fun a => pure (f a)) :=
  h.bind fun a => steady_pure (f a)

theorem steady_mapM {f : α → Compilation β} (h : ∀ a, Steady (f a)) (as : List α) : Steady (as.mapM f) := by
  induction as with
  | nil => exact steady_pure []
  | cons a as ih =>
      rw [List.mapM_cons]
      exact (h a).bind fun b => ih.map

end Compilation

namespace Compiler

open Compilation

variable (c : Compiler)

theorem steady_vet (pattern : String) :
    Steady (liftM (c.vet pattern) : Compilation (Except Pattern.Rejection Pattern.Vetted)) where
  result store store' hstore hstore' := by
    have hfirst := (hstore.vet c.maxPatternLength pattern).1
    have hsecond := (hstore'.vet c.maxPatternLength pattern).1
    exact congrArg Except.ok (hfirst.trans hsecond.symm)
  grows _ := ⟨[(c.maxPatternLength, pattern)], rfl⟩

theorem steady_matcher (fail : FieldFault → SchemaError) (field : String) (rule : Rule) :
    Steady (c.matcher fail field rule) := by
  rw [matcher.eq_def]
  split
  next source =>
    refine (c.steady_vet source).bind fun verdict => ?_
    cases verdict with
    | ok vetted => exact steady_pure _
    | error rejection => exact steady_throw _
  next name =>
    cases c.registry.resolve? name with
    | some predicate => exact steady_pure _
    | none => exact steady_throw _
  next => exact steady_pure _

theorem steady_step (fail : FieldFault → SchemaError) (field : String) (s : Step) : Steady (c.step fail field s) := by
  rw [step]
  cases s.rule.parameterFault? with
  | some fault => exact (steady_throw _).bind fun _ => (c.steady_matcher fail field s.rule).map
  | none => exact (c.steady_matcher fail field s.rule).map

theorem steady_field (schema : String) (known : List String) (f : Field) : Steady (c.field schema known f) := by
  have hsteps := (steady_mapM (c.steady_step (.inField schema f.name) f.name) f.steps).map (f := fun steps =>
    ((⟨f.name, f.nullable, steps.map (·.1), f.checkpoints, f.nested⟩ : PlannedField), steps.flatMap (·.2)))
  rw [field]
  cases shapeFault? known f with
  | some fault => exact (steady_throw _).bind fun _ => hsteps
  | none => exact hsteps

theorem steady_fields (schema : String) (known seen : List String) (fs : List Field) :
    Steady (c.fields schema known seen fs) := by
  induction fs generalizing seen with
  | nil =>
      rw [fields]
      exact steady_pure ([], [])
  | cons f rest ih =>
      have hfields := (c.steady_field schema known f).bind fun planned =>
        (ih (f.name :: seen)).map (f := fun others => (planned.1 :: others.1, planned.2 ++ others.2))
      rw [fields]
      by_cases hseen : f.name ∈ seen
      · rw [if_pos hseen]
        exact (steady_throw _).bind fun _ => hfields
      · rw [if_neg hseen]
        exact hfields

theorem steady_schema (known : List String) (s : Schema) : Steady (c.schema known s) := by
  rw [schema]
  exact (c.steady_fields s.name known [] s.fields).map

theorem steady_compile (schemas : List Schema) : Steady (c.compile schemas) := by
  have hplans := (steady_mapM (c.steady_schema (schemas.map (·.name))) schemas).map (f := PlanSet.mk)
  rw [compile]
  cases repeated? [] (schemas.map (·.name)) with
  | some name => exact (steady_throw _).bind fun _ => hplans
  | none => exact hplans

end Compiler

namespace PatternStore

/-- **A store is transparent.** Whatever patterns are vetted with a store that begins empty, under whatever limits:
each is answered as it is without a store; the store holds the patterns that were accepted and no others, each once;
and a pattern that is turned down leaves it as it is.
So a compilation has the same plans, their warnings among them, or the same error, as with an empty store, and leaves a
store of the same kind to the next one. -/
theorem store_transparent (requests : List (Nat × String)) :
    (empty.vetAll requests).1 = requests.map (fun (limit, pattern) => Pattern.vet limit pattern) ∧
      (∀ pattern, (after requests).contains pattern = true ↔
        ∃ limit vetted, (limit, pattern) ∈ requests ∧ Pattern.vet limit pattern = .ok vetted) ∧
      ((after requests).entries.map (·.1)).Nodup ∧
      (∀ limit pattern, ((after requests).vet limit pattern).1 = Pattern.vet limit pattern ∧
        ∀ rejection, Pattern.vet limit pattern = .error rejection →
          ((after requests).vet limit pattern).2 = after requests) ∧
      ∀ (c : Compiler) (schemas : List Schema),
        ((c.compile schemas).run (after requests)).1 = ((c.compile schemas).run empty).1 ∧
          ∃ more, ((c.compile schemas).run (after requests)).2 = after (requests ++ more) := by
  have hsound := sound_after requests
  have hempty : (empty.entries.map (·.1)).Nodup := List.nodup_nil
  refine ⟨(sound_empty.vetAll requests).1, fun pattern => ?_, nodup_vetAll hempty requests,
    fun limit pattern => ?_, fun c schemas => ?_⟩
  · have hnone : empty.contains pattern = false := rfl
    rw [after, contains_vetAll, hnone]
    simp
  · have hanswer := (hsound.vet limit pattern).1
    exact ⟨hanswer, fun rejection hrejection => vet_of_error (hanswer.trans hrejection)⟩
  · have hsteady := c.steady_compile schemas
    have hresult := hsteady.result _ _ hsound sound_empty
    obtain ⟨more, hmore⟩ := hsteady.grows (after requests)
    refine ⟨hresult, more, ?_⟩
    rw [after_append]
    exact hmore

end PatternStore

end Attest

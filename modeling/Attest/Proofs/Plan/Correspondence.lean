import Attest.Proofs.Lists
import Attest.Proofs.Plan.Transparency

/-!
What a schema and its plan have in common. A plan is its schema with a matcher added to each rule: nothing is lost,
nothing is moved, and each matcher is the one that its rule calls for. With it are the warnings that vetting has for the
patterns, in the order of the steps.

Since compilation is steady it can be read with an empty store, and then as if there were no store at all. Two things
follow that a call relies on. Whatever the plans refer to is among them, and a matcher asks a predicate only where the
rule names one.
-/

namespace Attest

namespace Compilation

variable {α β : Type} {work : Compilation α}

/-- What work comes to with an empty store. -/
def answer (work : Compilation α) : Except SchemaError α :=
  (work.run .empty).1

theorem Steady.answer_eq (h : Steady work) {store : PatternStore} (hstore : store.Sound) :
    (work.run store).1 = work.answer :=
  h.result store .empty hstore PatternStore.sound_empty

theorem exists_of_answer_bind {next : α → Compilation β} {b : β} (h : Steady work) (hnext : ∀ a, Steady (next a))
    (hanswer : (work >>= next).answer = .ok b) : ∃ a, work.answer = .ok a ∧ (next a).answer = .ok b := by
  have hsound := h.sound PatternStore.sound_empty
  rw [answer, run_bind] at hanswer
  rcases hrun : work.run .empty with ⟨error | a, mid⟩
  · rw [hrun] at hanswer
    cases hanswer
  · rw [hrun] at hanswer hsound
    exact ⟨a, by rw [answer, hrun], ((hnext a).answer_eq hsound).symm.trans hanswer⟩

theorem exists_of_answer_map {f : α → β} {b : β} (h : Steady work)
    (hanswer : (work >>= fun a => pure (f a)).answer = .ok b) : ∃ a, work.answer = .ok a ∧ f a = b := by
  obtain ⟨a, ha, hb⟩ := exists_of_answer_bind h (fun a => steady_pure (f a)) hanswer
  exact ⟨a, ha, Except.ok.inj hb⟩

/-- Work that begins with a throw has no answer. -/
theorem answer_throw_bind {error : SchemaError} {next : α → Compilation β} {b : β} :
    (throw error >>= next).answer ≠ .ok b := by
  intro h
  cases h

theorem forall₂_of_answer_mapM {f : α → Compilation β} (h : ∀ a, Steady (f a)) {as : List α} {bs : List β}
    (hanswer : (as.mapM f).answer = .ok bs) : List.Forall₂ (fun a b => (f a).answer = .ok b) as bs := by
  induction as generalizing bs with
  | nil =>
      obtain rfl : [] = bs := Except.ok.inj hanswer
      exact .nil
  | cons a as ih =>
      rw [List.mapM_cons] at hanswer
      have hrest := steady_mapM h as
      obtain ⟨b, hb, hmore⟩ := exists_of_answer_bind (h a) (fun b => hrest.map) hanswer
      obtain ⟨others, hothers, rfl⟩ := exists_of_answer_map hrest hmore
      exact .cons hb (ih hothers)

end Compilation

namespace Compiler

open Compilation

variable {c : Compiler} {known : List String}

/-- The matchers that a rule calls for. -/
inductive Matches (c : Compiler) : Rule → Matcher → Prop
  | pattern {source vetted} (h : Pattern.vet c.maxPatternLength source = .ok vetted) :
      Matches c (.pattern source) (.pattern vetted.regex)
  | custom {name predicate} (h : c.registry.resolve? name = some predicate) :
      Matches c (.custom name) (.custom predicate)
  | builtIn {rule} (hpattern : ∀ source, rule ≠ .pattern source) (hcustom : ∀ name, rule ≠ .custom name) :
      Matches c rule .builtIn

/-- A step with a matcher that its rule calls for. -/
structure StepMatches (c : Compiler) (s : Step) (planned : PlannedStep) : Prop where
  eq_ofStep : planned = .ofStep s planned.matcher
  matcher : c.Matches s.rule planned.matcher

/-- A field that refers to a schema only if it is known, with its plan. -/
structure FieldMatches (c : Compiler) (known : List String) (f : Field) (planned : PlannedField) : Prop where
  name : planned.name = f.name
  nullable : planned.nullable = f.nullable
  steps : List.Forall₂ c.StepMatches f.steps planned.steps
  checkpoints : planned.checkpoints = f.checkpoints
  nested : planned.nested = f.nested
  known : ∀ nesting, f.nested = some nesting → nesting.schema ∈ known

/-- What vetting has to say about the pattern of a step, for those that have one. -/
def warning? (c : Compiler) (field : String) (s : Step) : Option PatternWarning :=
  match s.rule with
  | .pattern source =>
      match Pattern.vet c.maxPatternLength source with
      | .ok vetted => vetted.warning.map fun w => ⟨field, source, w⟩
      | .error _ => none
  | _ => none

/-- A schema with its plan. -/
structure SchemaMatches (c : Compiler) (known : List String) (s : Schema) (plan : Plan) : Prop where
  name : plan.name = s.name
  fields : List.Forall₂ (c.FieldMatches known) s.fields plan.fields
  warnings : plan.warnings = s.fields.flatMap fun f => f.steps.filterMap (c.warning? f.name)

theorem answer_vet (c : Compiler) (source : String) :
    (liftM (c.vet source) : Compilation (Except Pattern.Rejection Pattern.Vetted)).answer =
      .ok (Pattern.vet c.maxPatternLength source) :=
  congrArg Except.ok (PatternStore.sound_empty.vet c.maxPatternLength source).1

theorem matches_of_matcher {fail : FieldFault → SchemaError} {field : String} {s : Step}
    {found : Matcher × List PatternWarning} (h : (c.matcher fail field s.rule).answer = .ok found) :
    c.Matches s.rule found.1 ∧ found.2 = (c.warning? field s).toList := by
  obtain ⟨rule, message⟩ := s
  rw [Compiler.matcher.eq_def] at h
  dsimp only at h ⊢
  split at h
  next source =>
    obtain ⟨verdict, hverdict, hfound⟩ := exists_of_answer_bind (c.steady_vet source) (fun verdict => by
      cases verdict with
      | ok vetted => exact steady_pure _
      | error rejection => exact steady_throw _) h
    rw [c.answer_vet] at hverdict
    cases verdict with
    | ok vetted =>
        obtain rfl := Except.ok.inj hfound
        have hvet := Except.ok.inj hverdict
        exact ⟨.pattern hvet, by simp only [warning?, hvet]⟩
    | error rejection => cases hfound
  next name =>
    cases hpredicate : c.registry.resolve? name with
    | some predicate =>
        rw [hpredicate] at h
        obtain rfl := Except.ok.inj h
        exact ⟨.custom hpredicate, rfl⟩
    | none =>
        rw [hpredicate] at h
        cases h
  next hpattern hcustom =>
    obtain rfl := Except.ok.inj h
    refine ⟨.builtIn hpattern hcustom, ?_⟩
    cases rule with
    | pattern source => exact absurd rfl (hpattern source)
    | _ => rfl

theorem stepMatches_of_step {fail : FieldFault → SchemaError} {field : String} {s : Step}
    {planned : PlannedStep × List PatternWarning} (h : (c.step fail field s).answer = .ok planned) :
    c.StepMatches s planned.1 ∧ planned.2 = (c.warning? field s).toList := by
  rw [step] at h
  cases hfault : s.rule.parameterFault? with
  | some fault =>
      rw [hfault] at h
      exact absurd h answer_throw_bind
  | none =>
      rw [hfault] at h
      obtain ⟨found, hfound, rfl⟩ := exists_of_answer_map (c.steady_matcher fail field s.rule) h
      obtain ⟨hmatcher, hwarnings⟩ := matches_of_matcher hfound
      exact ⟨⟨rfl, hmatcher⟩, hwarnings⟩

/-- What each has of its own, put together, is what those have that it corresponds to. -/
theorem flatMap_eq_filterMap_of_forall₂ {α β γ : Type} {r : α → β → Prop} {as : List α} {bs : List β}
    {f : α → Option γ} {g : β → List γ} (h : List.Forall₂ r as bs) (hfg : ∀ a b, r a b → g b = (f a).toList) :
    bs.flatMap g = as.filterMap f := by
  induction h with
  | nil => rfl
  | @cons a b as bs hab _ ih =>
      rw [List.flatMap_cons, List.filterMap_cons, hfg a b hab, ih]
      cases f a <;> rfl

theorem known_of_shapeFault? {f : Field} (h : shapeFault? known f = none) {nesting : Nesting}
    (hnested : f.nested = some nesting) : nesting.schema ∈ known := by
  rw [shapeFault?, hnested] at h
  cases hbeyond : f.checkpoints.beyond? f.steps.length with
  | some position =>
      rw [hbeyond] at h
      cases h
  | none =>
      rw [hbeyond] at h
      by_cases hknown : nesting.schema ∈ known
      · exact hknown
      · simp [hknown] at h

theorem fieldMatches_of_field {schema : String} {f : Field} {planned : PlannedField × List PatternWarning}
    (h : (c.field schema known f).answer = .ok planned) :
    c.FieldMatches known f planned.1 ∧ planned.2 = f.steps.filterMap (c.warning? f.name) := by
  have hsteady := c.steady_step (.inField schema f.name) f.name
  rw [field] at h
  cases hfault : shapeFault? known f with
  | some fault =>
      rw [hfault] at h
      exact absurd h answer_throw_bind
  | none =>
      rw [hfault] at h
      obtain ⟨steps, hsteps, rfl⟩ := exists_of_answer_map (steady_mapM hsteady f.steps) h
      have hmatches := (forall₂_of_answer_mapM hsteady hsteps).imp fun _ _ hstep => stepMatches_of_step hstep
      refine ⟨?_, flatMap_eq_filterMap_of_forall₂ hmatches fun _ _ hstep => hstep.2⟩
      exact {
        name := rfl
        nullable := rfl
        steps := List.forall₂_map_right_iff.2 (hmatches.imp fun _ _ hstep => hstep.1)
        checkpoints := rfl
        nested := rfl
        known := fun _ hnested => known_of_shapeFault? hfault hnested }

theorem forall₂_of_fields {schema : String} {seen : List String} {fs : List Field}
    {planned : List PlannedField × List PatternWarning} (h : (c.fields schema known seen fs).answer = .ok planned) :
    List.Forall₂ (c.FieldMatches known) fs planned.1 ∧
      planned.2 = fs.flatMap fun f => f.steps.filterMap (c.warning? f.name) := by
  induction fs generalizing seen planned with
  | nil =>
      rw [fields] at h
      obtain rfl := Except.ok.inj h
      exact ⟨.nil, rfl⟩
  | cons f rest ih =>
      rw [fields] at h
      by_cases hseen : f.name ∈ seen
      · rw [if_pos hseen] at h
        exact absurd h answer_throw_bind
      · rw [if_neg hseen] at h
        have hrest := c.steady_fields schema known (f.name :: seen) rest
        obtain ⟨first, hfirst, h⟩ := exists_of_answer_bind (c.steady_field schema known f) (fun _ => hrest.map) h
        obtain ⟨others, hothers, rfl⟩ := exists_of_answer_map hrest h
        obtain ⟨hmatches, hwarnings⟩ := fieldMatches_of_field hfirst
        obtain ⟨hmore, hwarnings'⟩ := ih hothers
        exact ⟨.cons hmatches hmore, by rw [List.flatMap_cons, ← hwarnings, ← hwarnings']⟩

theorem schemaMatches_of_schema {s : Schema} {plan : Plan} (h : (c.schema known s).answer = .ok plan) :
    c.SchemaMatches known s plan := by
  rw [schema] at h
  obtain ⟨planned, hplanned, rfl⟩ := exists_of_answer_map (c.steady_fields s.name known [] s.fields) h
  obtain ⟨hmatches, hwarnings⟩ := forall₂_of_fields hplanned
  exact ⟨rfl, hmatches, hwarnings⟩

/-- **What is compiled corresponds to the schemas**, plan by plan, and refers to them only. -/
theorem forall₂_of_compile {store : PatternStore} {schemas : List Schema} {plans : PlanSet} (hstore : store.Sound)
    (h : ((c.compile schemas).run store).1 = .ok plans) :
    List.Forall₂ (c.SchemaMatches (schemas.map (·.name))) schemas plans.plans := by
  have hsteady := c.steady_schema (schemas.map (·.name))
  rw [(c.steady_compile schemas).answer_eq hstore, compile] at h
  cases hrepeated : repeated? [] (schemas.map (·.name)) with
  | some name =>
      rw [hrepeated] at h
      exact absurd h answer_throw_bind
  | none =>
      rw [hrepeated] at h
      obtain ⟨compiled, hcompiled, rfl⟩ := exists_of_answer_map (steady_mapM hsteady schemas) h
      exact (forall₂_of_answer_mapM hsteady hcompiled).imp fun _ _ hschema => schemaMatches_of_schema hschema

end Compiler

/-! ### What a call relies on -/

namespace PlanSet

/-- Plans that refer only to each other. -/
def Closed (ps : PlanSet) : Prop :=
  ∀ plan ∈ ps.plans, ∀ f ∈ plan.fields, ∀ nesting, f.nested = some nesting →
    ∃ target, ps.get? nesting.schema = some target

/-- Plans that ask no predicate. -/
def BuiltIn (ps : PlanSet) : Prop :=
  ∀ plan ∈ ps.plans, ∀ f ∈ plan.fields, ∀ s ∈ f.steps, ∀ predicate, s.matcher ≠ .custom predicate

end PlanSet

namespace Compiler

variable {c : Compiler} {store : PatternStore} {schemas : List Schema} {plans : PlanSet}

theorem closed_of_compile (hstore : store.Sound) (h : ((c.compile schemas).run store).1 = .ok plans) :
    plans.Closed := by
  intro plan hplan f hf nesting hnested
  have hmatches := forall₂_of_compile hstore h
  obtain ⟨s, hs, hschema⟩ := exists_left_of_forall₂ hmatches hplan
  obtain ⟨g, hg, hfield⟩ := exists_left_of_forall₂ hschema.fields hf
  have hknown : nesting.schema ∈ schemas.map (·.name) := hfield.known nesting (hfield.nested.symm.trans hnested)
  obtain ⟨other, hother, hname⟩ := List.mem_map.1 hknown
  obtain ⟨target, htarget, hcorresponds⟩ := exists_left_of_forall₂ hmatches.flip hother
  have hfound : (plans.get? nesting.schema).isSome := by
    rw [PlanSet.get?, List.find?_isSome]
    exact ⟨target, htarget, decide_eq_true (hcorresponds.name.trans hname)⟩
  exact Option.isSome_iff_exists.1 hfound

theorem builtIn_of_compile (hstore : store.Sound) (h : ((c.compile schemas).run store).1 = .ok plans)
    (hcustom : ∀ s ∈ schemas, ∀ f ∈ s.fields, ∀ t ∈ f.steps, ∀ name, t.rule ≠ .custom name) : plans.BuiltIn := by
  intro plan hplan f hf planned hplanned predicate hmatcher
  obtain ⟨s, hs, hschema⟩ := exists_left_of_forall₂ (forall₂_of_compile hstore h) hplan
  obtain ⟨g, hg, hfield⟩ := exists_left_of_forall₂ hschema.fields hf
  obtain ⟨t, ht, hstep⟩ := exists_left_of_forall₂ hfield.steps hplanned
  have hmatches := hstep.matcher
  rw [hmatcher] at hmatches
  -- A predicate comes only from a rule that names one.
  generalize hrule : t.rule = rule at hmatches
  cases hmatches with
  | custom _ => exact hcustom s hs g hg t ht _ hrule

end Compiler

end Attest

import Attest.Proofs.Plan.Admission
import Attest.Proofs.Plan.Correspondence

/-!
What a call may rely on without looking: that plans say what the schemas say, and that they fit together.

Compilation that succeeds leaves a plan for each schema, to be found under its name and nowhere else. In it fields and
steps stand as they were declared; a chain stops where a checkpoint was set and nowhere behind its end; patterns are
the ones that were written; and whatever a field refers to is there. The warnings of a plan are those that vetting
gives for the patterns of its schema, one for each step, however often a pattern occurs.
-/

namespace Attest

namespace Pattern

variable {limit : Nat} {source : String} {vetted : Vetted}

theorem pattern_of_ofAst? {ast : Regex.Ast} {regex : Regex} (h : Regex.ofAst? source ast = some regex) :
    regex.pattern = source := by
  obtain ⟨e, -, h⟩ := Option.bind_eq_some_iff.1 h
  obtain ⟨-, -, h⟩ := Option.bind_eq_some_iff.1 h
  rw [← Option.some.inj h]

/-- What vetting lets pass is the expression that the pattern is read as. -/
theorem ofPattern?_of_vetAnyLength (h : vetAnyLength source = .ok vetted) :
    Regex.ofPattern? source = some vetted.regex := by
  rw [vetAnyLength] at h
  rw [Regex.ofPattern?]
  cases hast : Regex.Ast.read? source with
  | none => simp [hast] at h
  | some ast =>
      simp only [hast] at h
      cases hwarning : inspect (ast.outline source) with
      | error rejection => simp [hwarning, bind, Except.bind] at h
      | ok warning =>
          simp only [hwarning, bind, Except.bind] at h
          cases hregex : Regex.ofAst? source ast with
          | none => simp [hregex] at h
          | some regex =>
              simp only [hregex, pure, Except.pure, Except.ok.injEq] at h
              subst h
              exact hregex

theorem ofPattern?_of_vet (h : vet limit source = .ok vetted) : Regex.ofPattern? source = some vetted.regex := by
  cases hlength : checkLength limit source with
  | error rejection => rw [vet_of_tooLong hlength] at h; cases h
  | ok _ => exact ofPattern?_of_vetAnyLength (vet_of_checkLength hlength ▸ h)

theorem pattern_of_vet (h : vet limit source = .ok vetted) : vetted.regex.pattern = source := by
  obtain ⟨ast, -, hast⟩ := Option.bind_eq_some_iff.1 (ofPattern?_of_vet h)
  exact pattern_of_ofAst? hast

end Pattern

namespace Compiler

variable (c : Compiler)

/-- A step that asks what was declared, in the words that were declared, by the means that its rule calls for. -/
structure StepFaithful (s : Step) (planned : PlannedStep) : Prop where
  rule : planned.rule = s.rule
  messageKey : planned.messageKey = s.message.getD s.rule.name
  arguments : planned.arguments = s.rule.arguments
  pattern : ∀ source, s.rule = .pattern source →
    ∃ regex, planned.matcher = .pattern regex ∧ Regex.ofPattern? source = some regex
  custom : ∀ name, s.rule = .custom name →
    ∃ predicate, planned.matcher = .custom predicate ∧ c.registry.resolve? name = some predicate
  builtIn : (∀ source, s.rule ≠ .pattern source) → (∀ name, s.rule ≠ .custom name) → planned.matcher = .builtIn

/-- A field with the steps that were declared for it, whose chain stops where it was told to, and that refers only to
what `plans` has. -/
structure FieldFaithful (plans : PlanSet) (f : Field) (planned : PlannedField) : Prop where
  name : planned.name = f.name
  nullable : planned.nullable = f.nullable
  nested : planned.nested = f.nested
  steps : List.Forall₂ c.StepFaithful f.steps planned.steps
  ascending : planned.checkpoints.positions.Pairwise (· < ·)
  stopsAt : ∀ p, planned.stopsAt p = true ↔ p ∈ f.checkpoints
  inChain : ∀ p, planned.stopsAt p = true → p ≤ planned.steps.length
  closed : ∀ nesting, planned.nested = some nesting → plans.contains nesting.schema = true

/-- A plan that says of each field what its schema says, and tells what is doubtful about the patterns of the schema. -/
structure SchemaFaithful (plans : PlanSet) (s : Schema) (plan : Plan) : Prop where
  name : plan.name = s.name
  fields : List.Forall₂ (c.FieldFaithful plans) s.fields plan.fields
  warnings : plan.warnings = s.fields.flatMap fun f => f.steps.filterMap (c.warning? f.name)

/-- Plans that say what the schemas say, one for each of them, to be found under its name and under no other. -/
structure Faithful (schemas : List Schema) (ps : PlanSet) : Prop where
  corresponding : List.Forall₂ (c.SchemaFaithful ps) schemas ps.plans
  distinct : (ps.plans.map (·.name)).Nodup
  found : ∀ plan ∈ ps.plans, ps.get? plan.name = some plan
  names : ∀ name, ps.contains name = true ↔ name ∈ schemas.map (·.name)

variable {c} {plans : PlanSet} {schemas : List Schema}

/-! ### Steps -/

theorem Matches.exists_vetted {source : String} {matcher : Matcher} (h : c.Matches (.pattern source) matcher) :
    ∃ vetted, matcher = .pattern vetted.regex ∧ Pattern.vet c.maxPatternLength source = .ok vetted := by
  cases h with
  | pattern h => exact ⟨_, rfl, h⟩
  | builtIn hpattern _ => exact absurd rfl (hpattern source)

theorem Matches.exists_predicate {name : String} {matcher : Matcher} (h : c.Matches (.custom name) matcher) :
    ∃ predicate, matcher = .custom predicate ∧ c.registry.resolve? name = some predicate := by
  cases h with
  | custom h => exact ⟨_, rfl, h⟩
  | builtIn _ hcustom => exact absurd rfl (hcustom name)

theorem Matches.eq_builtIn {rule : Rule} {matcher : Matcher} (h : c.Matches rule matcher)
    (hpattern : ∀ source, rule ≠ .pattern source) (hcustom : ∀ name, rule ≠ .custom name) : matcher = .builtIn := by
  cases h with
  | pattern _ => exact absurd rfl (hpattern _)
  | custom _ => exact absurd rfl (hcustom _)
  | builtIn _ _ => rfl

theorem StepMatches.rule_eq {s : Step} {planned : PlannedStep} (h : c.StepMatches s planned) : planned.rule = s.rule :=
  congrArg PlannedStep.rule h.eq_ofStep

theorem StepMatches.faithful {s : Step} {planned : PlannedStep} (h : c.StepMatches s planned) :
    c.StepFaithful s planned := by
  have hmatcher := h.matcher
  refine ⟨h.rule_eq, congrArg PlannedStep.messageKey h.eq_ofStep, congrArg PlannedStep.arguments h.eq_ofStep,
    fun source hrule => ?_, fun name hrule => ?_, hmatcher.eq_builtIn⟩
  · rw [hrule] at hmatcher
    obtain ⟨vetted, hvetted, hvet⟩ := hmatcher.exists_vetted
    exact ⟨vetted.regex, hvetted, Pattern.ofPattern?_of_vet hvet⟩
  · rw [hrule] at hmatcher
    exact hmatcher.exists_predicate

/-! ### Lists of what is compiled -/

/-- Two functions that agree on what corresponds give the same list. -/
theorem map_eq_map_of_forall₂ {α β γ : Type} {r : α → β → Prop} {as : List α} {bs : List β} {f : α → γ} {g : β → γ}
    (h : List.Forall₂ r as bs) (hfg : ∀ a b, r a b → f a = g b) : as.map f = bs.map g := by
  induction h with
  | nil => rfl
  | cons hab _ ih => rw [List.map_cons, List.map_cons, hfg _ _ hab, ih]

theorem FieldMatches.faithful {known : List String} {f : Field} {planned : PlannedField}
    (h : c.FieldMatches known f planned) (hadmits : c.AdmitsField known f)
    (hknown : ∀ name ∈ known, plans.contains name = true) : c.FieldFaithful plans f planned where
  name := h.name
  nullable := h.nullable
  nested := h.nested
  steps := h.steps.imp fun _ _ hstep => hstep.faithful
  ascending := planned.checkpoints.sorted
  stopsAt p := by rw [PlannedField.stopsAt, Checkpoints.contains_iff, h.checkpoints]
  inChain p hp := by
    rw [PlannedField.stopsAt, Checkpoints.contains_iff, h.checkpoints] at hp
    rw [← h.steps.length_eq]
    exact hadmits.checkpoints p hp
  closed nesting hnesting := hknown _ (h.known nesting (h.nested.symm.trans hnesting))

theorem SchemaMatches.faithful {known : List String} {s : Schema} {plan : Plan} (h : c.SchemaMatches known s plan)
    (hadmits : c.AdmitsSchema known s) (hknown : ∀ name ∈ known, plans.contains name = true) :
    c.SchemaFaithful plans s plan where
  name := h.name
  fields := ((List.forall₂_and_left _ _).2 ⟨hadmits.fields, h.fields⟩).imp
    fun _ _ ⟨hfield, hmatches⟩ => hmatches.faithful hfield hknown
  warnings := h.warnings

end Compiler

namespace PlanSet

variable {ps : PlanSet}

theorem contains_iff {name : String} : ps.contains name = true ↔ name ∈ ps.plans.map (·.name) := by
  simp [contains, get?, List.find?_isSome]

/-- Where names do not repeat, a plan is found under its own. -/
theorem get?_of_mem (hdistinct : (ps.plans.map (·.name)).Nodup) {plan : Plan} (h : plan ∈ ps.plans) :
    ps.get? plan.name = some plan := by
  obtain ⟨other, hother⟩ := Option.isSome_iff_exists.1 (contains_iff.2 (List.mem_map_of_mem h))
  have hname : other.name = plan.name := by simpa using List.find?_some hother
  rwa [List.inj_on_of_nodup_map hdistinct (List.mem_of_find?_eq_some hother) h hname] at hother

end PlanSet

namespace Compiler

variable {c : Compiler} {schemas : List Schema} {plans : PlanSet}

/-- **Compilation is faithful**, whatever the store knew before: what it gives says what the schemas say, each of its
chains stops where it was told to, and all that its fields refer to is there. -/
theorem faithful_of_compile {store : PatternStore} (hstore : store.Grown)
    (h : ((c.compile schemas).run store).1 = .ok plans) : c.Faithful schemas plans := by
  have hmatches := forall₂_of_compile hstore.sound h
  have hadmits := ((settles_compile schemas).ok store hstore.sound).1 ⟨plans, h⟩
  have hnames : plans.plans.map (·.name) = schemas.map (·.name) :=
    (map_eq_map_of_forall₂ hmatches fun _ _ hschema => hschema.name.symm).symm
  have hcontains (name : String) : plans.contains name = true ↔ name ∈ schemas.map (·.name) := by
    rw [PlanSet.contains_iff, hnames]
  have hdistinct : (plans.plans.map (·.name)).Nodup := hnames ▸ hadmits.distinct
  refine ⟨?_, hdistinct, fun plan => PlanSet.get?_of_mem hdistinct, hcontains⟩
  exact ((List.forall₂_and_left _ _).2 ⟨hadmits.schemas, hmatches⟩).imp
    fun _ _ ⟨hschema, hplan⟩ => hplan.faithful hschema fun name => (hcontains name).2

/-- Orders of items. The note has to end in an `x`, which is asked twice by a pattern that vetting doubts. -/
def orderAndItem : List Schema :=
  [⟨"Order", [⟨"note", true, [⟨.pattern "^.*x$", none⟩, ⟨.pattern "^.*x$", some "odd_note"⟩], .ofList [1], none⟩,
      ⟨"items", false, [⟨.minSize 1, none⟩], .empty, some ⟨"Item", true⟩⟩]⟩,
    ⟨"Item", [⟨"number", false, [⟨.required, none⟩], .ofList [0, 1], none⟩]⟩]

theorem faithful_of_compile_orderAndItem :
    ∃ plans, ((bare.compile orderAndItem).run .empty).1 = .ok plans ∧ bare.Faithful orderAndItem plans ∧
      plans.plans.map (·.warnings) = [List.replicate 2 ⟨"note", "^.*x$", .wildcard ".*"⟩, []] := by
  have hwarnings : ((bare.compile orderAndItem).run .empty).1.toOption.map (·.plans.map (·.warnings)) =
      some [List.replicate 2 ⟨"note", "^.*x$", .wildcard ".*"⟩, []] := by decide +kernel
  cases hcompile : ((bare.compile orderAndItem).run .empty).1 with
  | error e => simp [hcompile, Except.toOption] at hwarnings
  | ok plans =>
      rw [hcompile] at hwarnings
      exact ⟨plans, rfl, faithful_of_compile .empty hcompile, Option.some.inj hwarnings⟩

end Compiler

end Attest

import Attest.Proofs.Plan.Settling
import Mathlib.Data.List.Nodup

/-!
Which schemas have plans, and what is told of those that have none. Both are said of the schemas alone: they are
admitted when names do not repeat, what they refer to is there, and every step makes sense; otherwise what is told
is the first thing wrong, everything that stands before it being as it should be.

Each function of the compiler is settled by the rules for putting work together and by what is known of the functions
that it calls.
-/

namespace Attest

namespace Checkpoints

/-- The least checkpoint behind a position. -/
theorem beyond?_eq_some_iff {c : Checkpoints} {n p : Nat} :
    c.beyond? n = some p ↔ p ∈ c ∧ n < p ∧ ∀ q ∈ c, n < q → p ≤ q := by
  rw [beyond?, List.find?_eq_some_iff_append]
  simp only [decide_eq_true_eq, Bool.not_eq_true', decide_eq_false_iff_not]
  constructor
  · rintro ⟨hp, before, after, hpositions, hbefore⟩
    refine ⟨?_, hp, ?_⟩
    · change p ∈ c.positions
      simp [hpositions]
    · intro q hq hn
      have hsorted := c.sorted
      have hq : q ∈ c.positions := hq
      rw [hpositions] at hsorted hq
      rcases List.mem_append.1 hq with hq | hq
      · exact absurd hn (hbefore q hq)
      · rcases List.mem_cons.1 hq with rfl | hq
        · exact Nat.le_refl _
        · have hlt := (List.pairwise_cons.1 (List.pairwise_append.1 hsorted).2.1).1 q hq
          omega
  · rintro ⟨hmem, hp, hleast⟩
    obtain ⟨before, after, hpositions⟩ := List.append_of_mem (show p ∈ c.positions from hmem)
    refine ⟨hp, before, after, hpositions, ?_⟩
    intro q hq hn
    have hsorted := c.sorted
    rw [hpositions] at hsorted
    have hlt := (List.pairwise_append.1 hsorted).2.2 q hq p List.mem_cons_self
    have hmem : q ∈ c := by
      change q ∈ c.positions
      rw [hpositions]
      exact List.mem_append_left _ hq
    have hle := hleast q hmem hn
    omega

theorem beyond?_eq_none_iff {c : Checkpoints} {n : Nat} : c.beyond? n = none ↔ ∀ p ∈ c, p ≤ n := by
  rw [beyond?, List.find?_eq_none]
  simp only [decide_eq_true_eq, Nat.not_lt]
  exact Iff.rfl

end Checkpoints

namespace Compiler

variable (c : Compiler)

/-! ### What is admitted -/

/-- A step with which something can be done: its parameters make sense, and the pattern or the predicate that it names
is one to be had. -/
structure AdmitsStep (s : Step) : Prop where
  parameters : s.rule.parameterFault? = none
  pattern : ∀ source, s.rule = .pattern source → ∃ vetted, Pattern.vet c.maxPatternLength source = .ok vetted
  predicate : ∀ name, s.rule = .custom name → c.registry.contains name = true

/-- A field that is as it should be, `known` being the schemas that it may refer to. -/
structure AdmitsField (known : List String) (f : Field) : Prop where
  checkpoints : ∀ p ∈ f.checkpoints, p ≤ f.steps.length
  nested : ∀ nesting, f.nested = some nesting → nesting.schema ∈ known
  steps : ∀ s ∈ f.steps, c.AdmitsStep s

structure AdmitsSchema (known : List String) (s : Schema) : Prop where
  distinct : (s.fields.map (·.name)).Nodup
  fields : ∀ f ∈ s.fields, c.AdmitsField known f

/-- Schemas that may refer to each other and to nothing else. -/
structure Admits (schemas : List Schema) : Prop where
  distinct : (schemas.map (·.name)).Nodup
  schemas : ∀ s ∈ schemas, c.AdmitsSchema (schemas.map (·.name)) s

/-! ### What is told -/

/-- What is wrong with a step: its parameters, and only then its pattern or its predicate. -/
inductive StepFails (s : Step) : FieldFault → Prop
  | parameters {fault} (h : s.rule.parameterFault? = some fault) : StepFails s (.parameters s.rule.name fault)
  | pattern {source rejection} (hparameters : s.rule.parameterFault? = none) (hrule : s.rule = .pattern source)
      (h : Pattern.vet c.maxPatternLength source = .error rejection) : StepFails s (.pattern source rejection)
  | unresolved {name} (hparameters : s.rule.parameterFault? = none) (hrule : s.rule = .custom name)
      (h : c.registry.contains name = false) : StepFails s (.unresolved name)

/-- The first thing wrong with a field, `earlier` being the names of the fields before it: that it has the name of one
of them, its least checkpoint that is out of range, its nested schema, and then its steps in their order. -/
inductive FieldFails (known earlier : List String) (f : Field) : FieldFault → Prop
  | duplicate (h : f.name ∈ earlier) : FieldFails known earlier f .duplicate
  | checkpoint {p} (hname : f.name ∉ earlier) (hp : p ∈ f.checkpoints) (hout : f.steps.length < p)
      (hleast : ∀ q ∈ f.checkpoints, f.steps.length < q → p ≤ q) :
      FieldFails known earlier f (.checkpointOutOfRange p f.steps.length)
  | nested {nesting} (hname : f.name ∉ earlier) (hcheckpoints : ∀ p ∈ f.checkpoints, p ≤ f.steps.length)
      (hnested : f.nested = some nesting) (h : nesting.schema ∉ known) :
      FieldFails known earlier f (.unknownNested nesting.schema)
  | step {before s after fault} (hname : f.name ∉ earlier) (hcheckpoints : ∀ p ∈ f.checkpoints, p ≤ f.steps.length)
      (hnested : ∀ nesting, f.nested = some nesting → nesting.schema ∈ known)
      (hsteps : f.steps = before ++ s :: after) (hbefore : ∀ t ∈ before, c.AdmitsStep t) (h : c.StepFails s fault) :
      FieldFails known earlier f fault

/-- The first thing wrong with a schema: that of a field, the fields before it being as they should be. -/
inductive SchemaFails (known : List String) (s : Schema) : SchemaError → Prop
  | field {before f after fault} (hfields : s.fields = before ++ f :: after)
      (hdistinct : (before.map (·.name)).Nodup) (hbefore : ∀ g ∈ before, c.AdmitsField known g)
      (h : c.FieldFails known (before.map (·.name)) f fault) : SchemaFails known s (.inField s.name f.name fault)

/-- The first thing wrong with schemas: the first name that occurs again, and if there is none, the first thing wrong
with a schema, the schemas before it being as they should be. -/
inductive Fails (schemas : List Schema) : SchemaError → Prop
  | duplicate {before s after} (hschemas : schemas = before ++ s :: after) (hdistinct : (before.map (·.name)).Nodup)
      (h : s.name ∈ before.map (·.name)) : Fails schemas (.duplicate s.name)
  | schema {before s after error} (hdistinct : (schemas.map (·.name)).Nodup) (hschemas : schemas = before ++ s :: after)
      (hbefore : ∀ t ∈ before, c.AdmitsSchema (schemas.map (·.name)) t)
      (h : c.SchemaFails (schemas.map (·.name)) s error) : Fails schemas error

end Compiler

namespace Compiler

open Compilation

variable {c : Compiler}

/-! ### The functions of the compiler -/

theorem run_matcher_pattern (fail : FieldFault → SchemaError) (field source : String) (store : PatternStore) :
    (c.matcher fail field (.pattern source)).run store =
      match store.vet c.maxPatternLength source with
      | (.ok vetted, store) =>
          (.ok (.pattern vetted.regex, (vetted.warning.map fun w => ⟨field, source, w⟩).toList), store)
      | (.error rejection, store) => (.error (fail (.pattern source rejection)), store) := by
  have hvet : (liftM (c.vet source) : Compilation (Except Pattern.Rejection Pattern.Vetted)).run store =
      (.ok (store.vet c.maxPatternLength source).1, (store.vet c.maxPatternLength source).2) := rfl
  rw [matcher, run_bind, hvet]
  rcases store.vet c.maxPatternLength source with ⟨_ | _, store'⟩ <;> rfl

theorem settles_matcher_pattern (fail : FieldFault → SchemaError) (field source : String) :
    Settles (c.matcher fail field (.pattern source)) (∃ vetted, Pattern.vet c.maxPatternLength source = .ok vetted)
      fun e => ∃ rejection, Pattern.vet c.maxPatternLength source = .error rejection ∧
        e = fail (.pattern source rejection) where
  sound store hstore := by
    have hsound := (hstore.vet c.maxPatternLength source).2
    rw [run_matcher_pattern]
    rcases hresult : store.vet c.maxPatternLength source with ⟨_ | _, store'⟩ <;> rwa [hresult] at hsound
  ok store hstore := by
    rw [run_matcher_pattern, ← (hstore.vet c.maxPatternLength source).1]
    rcases store.vet c.maxPatternLength source with ⟨_ | vetted, store'⟩
    · exact iff_of_false (fun ⟨_, h⟩ => by cases h) fun ⟨_, h⟩ => by cases h
    · exact iff_of_true ⟨_, rfl⟩ ⟨vetted, rfl⟩
  error store hstore e := by
    rw [run_matcher_pattern, ← (hstore.vet c.maxPatternLength source).1]
    rcases store.vet c.maxPatternLength source with ⟨rejection | _, store'⟩
    · simp [eq_comm]
    · simp

theorem settles_matcher_custom (fail : FieldFault → SchemaError) (field name : String) :
    Settles (c.matcher fail field (.custom name)) (c.registry.contains name = true)
      fun e => c.registry.contains name = false ∧ e = fail (.unresolved name) := by
  rw [matcher, Registry.contains]
  cases c.registry.resolve? name with
  | some predicate => exact (settles_pure _).congr (by simp) (by simp)
  | none => exact (settles_throw _).congr (by simp) (by simp)

section Steps

variable {s : Step} {fault : FieldFault}

theorem admitsStep_pattern_iff {source : String} (hparameters : s.rule.parameterFault? = none)
    (hrule : s.rule = .pattern source) :
    c.AdmitsStep s ↔ ∃ vetted, Pattern.vet c.maxPatternLength source = .ok vetted := by
  refine ⟨fun h => h.pattern source hrule, fun h => ⟨hparameters, fun other hother => ?_, fun name hname => ?_⟩⟩
  · obtain rfl := Rule.pattern.inj (hrule.symm.trans hother)
    exact h
  · cases hrule.symm.trans hname

theorem stepFails_pattern_iff {source : String} (hparameters : s.rule.parameterFault? = none)
    (hrule : s.rule = .pattern source) : c.StepFails s fault ↔
      ∃ rejection, Pattern.vet c.maxPatternLength source = .error rejection ∧ fault = .pattern source rejection := by
  constructor
  · intro hfails
    cases hfails with
    | parameters h => cases hparameters.symm.trans h
    | pattern _ hother h =>
        obtain rfl := Rule.pattern.inj (hrule.symm.trans hother)
        exact ⟨_, h, rfl⟩
    | unresolved _ hother _ => cases hrule.symm.trans hother
  · rintro ⟨rejection, h, rfl⟩
    exact .pattern hparameters hrule h

theorem admitsStep_custom_iff {name : String} (hparameters : s.rule.parameterFault? = none)
    (hrule : s.rule = .custom name) : c.AdmitsStep s ↔ c.registry.contains name = true := by
  refine ⟨fun h => h.predicate name hrule, fun h => ⟨hparameters, fun source hsource => ?_, fun other hother => ?_⟩⟩
  · cases hrule.symm.trans hsource
  · obtain rfl := Rule.custom.inj (hrule.symm.trans hother)
    exact h

theorem stepFails_custom_iff {name : String} (hparameters : s.rule.parameterFault? = none)
    (hrule : s.rule = .custom name) :
    c.StepFails s fault ↔ c.registry.contains name = false ∧ fault = .unresolved name := by
  constructor
  · intro hfails
    cases hfails with
    | parameters h => cases hparameters.symm.trans h
    | pattern _ hother _ => cases hrule.symm.trans hother
    | unresolved _ hother h =>
        obtain rfl := Rule.custom.inj (hrule.symm.trans hother)
        exact ⟨h, rfl⟩
  · rintro ⟨h, rfl⟩
    exact .unresolved hparameters hrule h

end Steps

theorem settles_matcher (fail : FieldFault → SchemaError) (field : String) {s : Step}
    (hparameters : s.rule.parameterFault? = none) : Settles (c.matcher fail field s.rule) (c.AdmitsStep s) fun e => ∃ fault, c.StepFails s fault ∧ e = fail fault := by
  rw [matcher.eq_def]
  split
  next source hrule =>
    refine (settles_matcher_pattern fail field source).congr (admitsStep_pattern_iff hparameters hrule).symm fun e => ?_
    simp only [stepFails_pattern_iff hparameters hrule]
    constructor
    · rintro ⟨rejection, h, rfl⟩
      exact ⟨_, ⟨rejection, h, rfl⟩, rfl⟩
    · rintro ⟨_, ⟨rejection, h, rfl⟩, rfl⟩
      exact ⟨rejection, h, rfl⟩
  next name hrule =>
    refine (settles_matcher_custom fail field name).congr (admitsStep_custom_iff hparameters hrule).symm fun e => ?_
    simp only [stepFails_custom_iff hparameters hrule]
    constructor
    · rintro ⟨h, rfl⟩
      exact ⟨_, ⟨h, rfl⟩, rfl⟩
    · rintro ⟨_, ⟨h, rfl⟩, rfl⟩
      exact ⟨h, rfl⟩
  next hpattern hcustom =>
    -- A rule that is built in needs nothing but parameters that make sense.
    refine (settles_pure (Matcher.builtIn, [])).congr (iff_of_true trivial ?_) fun e => iff_of_false id ?_
    · exact ⟨hparameters, fun source h => (hpattern source h).elim, fun name h => (hcustom name h).elim⟩
    · rintro ⟨_, hfails, _⟩
      cases hfails with
      | parameters h => cases hparameters.symm.trans h
      | pattern _ h _ => exact hpattern _ h
      | unresolved _ h _ => exact hcustom _ h

theorem settles_step (fail : FieldFault → SchemaError) (field : String) (s : Step) :
    Settles (c.step fail field s) (c.AdmitsStep s) fun e => ∃ fault, c.StepFails s fault ∧ e = fail fault := by
  rw [step]
  cases hfault : s.rule.parameterFault? with
  | none => exact (settles_matcher fail field hfault).map
  | some fault =>
      have hnone (h : s.rule.parameterFault? = none) : False := by
        rw [hfault] at h
        cases h
      refine (settles_throw_bind _ _).congr (iff_of_false id fun h => hnone h.parameters) fun e => ?_
      constructor
      · rintro rfl
        exact ⟨_, .parameters hfault, rfl⟩
      · rintro ⟨_, hfails, rfl⟩
        cases hfails with
        | parameters h =>
            obtain rfl := Option.some.inj (hfault.symm.trans h)
            rfl
        | pattern h _ _ => exact (hnone h).elim
        | unresolved h _ _ => exact (hnone h).elim

/-! ### Fields -/

theorem shapeFault?_eq_none_iff {known : List String} {f : Field} :
    shapeFault? known f = none ↔
      (∀ p ∈ f.checkpoints, p ≤ f.steps.length) ∧ ∀ nesting, f.nested = some nesting → nesting.schema ∈ known := by
  rw [← Checkpoints.beyond?_eq_none_iff, shapeFault?]
  cases f.checkpoints.beyond? f.steps.length with
  | some position => simp
  | none =>
      cases f.nested with
      | none => simp
      | some nesting => simp

theorem shapeFault?_eq_some_iff {known : List String} {f : Field} {fault : FieldFault} :
    shapeFault? known f = some fault ↔
      (∃ p, (p ∈ f.checkpoints ∧ f.steps.length < p ∧ ∀ q ∈ f.checkpoints, f.steps.length < q → p ≤ q) ∧
        fault = .checkpointOutOfRange p f.steps.length) ∨
      (∀ p ∈ f.checkpoints, p ≤ f.steps.length) ∧
        ∃ nesting, f.nested = some nesting ∧ nesting.schema ∉ known ∧ fault = .unknownNested nesting.schema := by
  simp only [← Checkpoints.beyond?_eq_none_iff, ← Checkpoints.beyond?_eq_some_iff, shapeFault?]
  cases f.checkpoints.beyond? f.steps.length with
  | some position => simp [eq_comm]
  | none =>
      cases f.nested with
      | none => simp
      | some nesting => simp [eq_comm]

/-- What is wrong with a field whose name is new: what is wrong with it as a whole, or else its first step that fails. -/
theorem fieldFails_iff {known earlier : List String} {f : Field} {fault : FieldFault} (hname : f.name ∉ earlier) :
    c.FieldFails known earlier f fault ↔ shapeFault? known f = some fault ∨ shapeFault? known f = none ∧
      ∃ before s after, f.steps = before ++ s :: after ∧ (∀ t ∈ before, c.AdmitsStep t) ∧ c.StepFails s fault := by
  constructor
  · intro h
    cases h with
    | duplicate h => exact absurd h hname
    | checkpoint _ hp hout hleast => exact .inl (shapeFault?_eq_some_iff.2 (.inl ⟨_, ⟨hp, hout, hleast⟩, rfl⟩))
    | nested _ hcheckpoints hnested h =>
        exact .inl (shapeFault?_eq_some_iff.2 (.inr ⟨hcheckpoints, _, hnested, h, rfl⟩))
    | step _ hcheckpoints hnested hsteps hbefore h =>
        exact .inr ⟨shapeFault?_eq_none_iff.2 ⟨hcheckpoints, hnested⟩, _, _, _, hsteps, hbefore, h⟩
  · rintro (hshape | ⟨hshape, before, s, after, hsteps, hbefore, h⟩)
    · rcases shapeFault?_eq_some_iff.1 hshape with ⟨p, ⟨hp, hout, hleast⟩, rfl⟩ | ⟨hcheckpoints, nesting, hnested, h, rfl⟩
      · exact .checkpoint hname hp hout hleast
      · exact .nested hname hcheckpoints hnested h
    · obtain ⟨hcheckpoints, hnested⟩ := shapeFault?_eq_none_iff.1 hshape
      exact .step hname hcheckpoints hnested hsteps hbefore h

/-- A field whose name has not been seen. -/
theorem settles_field (schema : String) (known : List String) {earlier : List String} {f : Field} (hname : f.name ∉ earlier) :
    Settles (c.field schema known f) (c.AdmitsField known f)
      fun e => ∃ fault, c.FieldFails known earlier f fault ∧ e = .inField schema f.name fault := by
  simp only [fieldFails_iff hname]
  rw [field]
  cases hshape : shapeFault? known f with
  | some fault =>
      refine (settles_throw_bind _ _).congr (iff_of_false id fun h => ?_) fun e => by simp
      rw [shapeFault?_eq_none_iff.2 ⟨h.checkpoints, h.nested⟩] at hshape
      cases hshape
  | none =>
      obtain ⟨hcheckpoints, hnested⟩ := shapeFault?_eq_none_iff.1 hshape
      have hsteps := settles_mapM f.steps fun s _ => settles_step (c := c) (.inField schema f.name) f.name s
      refine hsteps.map.congr ⟨fun h => ⟨hcheckpoints, hnested, h⟩, fun h => h.steps⟩ fun e => ?_
      constructor
      · rintro ⟨before, s, after, heq, hbefore, fault, hfails, rfl⟩
        exact ⟨fault, .inr ⟨rfl, before, s, after, heq, hbefore, hfails⟩, rfl⟩
      · rintro ⟨fault, hnone | ⟨-, before, s, after, heq, hbefore, hfails⟩, rfl⟩
        · cases hnone
        · exact ⟨before, s, after, heq, hbefore, fault, hfails, rfl⟩

/-- Of the names of earlier fields only counts which they are. -/
theorem FieldFails.congr {known earlier earlier' : List String} {f : Field} {fault : FieldFault}
    (h : c.FieldFails known earlier f fault) (hnames : f.name ∈ earlier ↔ f.name ∈ earlier') :
    c.FieldFails known earlier' f fault := by
  cases h with
  | duplicate h => exact .duplicate (hnames.1 h)
  | checkpoint hname hp hout hleast => exact .checkpoint (mt hnames.2 hname) hp hout hleast
  | nested hname hcheckpoints hnested h => exact .nested (mt hnames.2 hname) hcheckpoints hnested h
  | step hname hcheckpoints hnested hsteps hbefore h =>
      exact .step (mt hnames.2 hname) hcheckpoints hnested hsteps hbefore h

/-- Names are new and distinct if the first is new, and the others are so with the first among those seen. -/
theorem nodup_new_cons_iff {P : Field → Prop} {seen : List String} {f : Field} {fs : List Field} :
    (((f :: fs).map (·.name)).Nodup ∧ ∀ g ∈ f :: fs, g.name ∉ seen ∧ P g) ↔
      (f.name ∉ seen ∧ P f) ∧ (fs.map (·.name)).Nodup ∧ ∀ g ∈ fs, g.name ∉ f.name :: seen ∧ P g := by
  rw [List.map_cons, List.nodup_cons]
  constructor
  · rintro ⟨⟨hname, hdistinct⟩, hall⟩
    refine ⟨hall f List.mem_cons_self, hdistinct, fun g hg => ?_⟩
    obtain ⟨hnew, hg'⟩ := hall g (List.mem_cons_of_mem f hg)
    refine ⟨fun hmem => ?_, hg'⟩
    rcases List.mem_cons.1 hmem with heq | hmem
    · exact hname (List.mem_map.2 ⟨g, hg, heq⟩)
    · exact hnew hmem
  · rintro ⟨hf, hdistinct, hrest⟩
    refine ⟨⟨fun hmem => ?_, hdistinct⟩, fun g hg => ?_⟩
    · obtain ⟨g, hg, heq⟩ := List.mem_map.1 hmem
      exact (hrest g hg).1 (heq ▸ List.mem_cons_self)
    · rcases List.mem_cons.1 hg with rfl | hg
      · exact hf
      · exact ⟨fun hmem => (hrest g hg).1 (List.mem_cons_of_mem _ hmem), (hrest g hg).2⟩

/-- What is told of fields that come after others with the names in `seen`. -/
def FieldsFail (c : Compiler) (schema : String) (known seen : List String) (fs : List Field) (e : SchemaError) : Prop :=
  ∃ before f after fault, fs = before ++ f :: after ∧ (before.map (·.name)).Nodup ∧
    (∀ g ∈ before, g.name ∉ seen ∧ c.AdmitsField known g) ∧
    c.FieldFails known (seen ++ before.map (·.name)) f fault ∧ e = .inField schema f.name fault

theorem not_fieldsFail_nil {schema : String} {known seen : List String} {e : SchemaError} :
    ¬c.FieldsFail schema known seen [] e := by
  rintro ⟨before, f, after, fault, heq, -⟩
  simp at heq

theorem fieldsFail_cons_iff {schema : String} {known seen : List String} {f : Field} {rest : List Field}
    {e : SchemaError} : c.FieldsFail schema known seen (f :: rest) e ↔
      (∃ fault, c.FieldFails known seen f fault ∧ e = .inField schema f.name fault) ∨
        (f.name ∉ seen ∧ c.AdmitsField known f) ∧ c.FieldsFail schema known (f.name :: seen) rest e := by
  constructor
  · rintro ⟨before, g, after, fault, heq, hdistinct, hbefore, hfails, rfl⟩
    cases before with
    | nil =>
        obtain ⟨rfl, rfl⟩ := List.cons.inj heq
        exact .inl ⟨fault, hfails.congr (by simp), rfl⟩
    | cons f' before =>
        obtain ⟨rfl, rfl⟩ := List.cons.inj heq
        obtain ⟨hf, hdistinct, hbefore⟩ := nodup_new_cons_iff.1 ⟨hdistinct, hbefore⟩
        exact .inr ⟨hf, before, g, after, fault, rfl, hdistinct, hbefore, hfails.congr (by simp [or_left_comm]), rfl⟩
  · rintro (⟨fault, hfails, rfl⟩ | ⟨hf, before, g, after, fault, rfl, hdistinct, hbefore, hfails, rfl⟩)
    · exact ⟨[], f, rest, fault, rfl, List.nodup_nil, by simp, hfails.congr (by simp), rfl⟩
    · obtain ⟨hdistinct, hbefore⟩ := nodup_new_cons_iff.2 ⟨hf, hdistinct, hbefore⟩
      exact ⟨f :: before, g, after, fault, rfl, hdistinct, hbefore, hfails.congr (by simp [or_left_comm]), rfl⟩

/-- The loop over the fields of a schema. It carries the names before along, which is all that a field is told by. -/
theorem settles_fields (schema : String) (known seen : List String) (fs : List Field) :
    Settles (c.fields schema known seen fs)
      ((fs.map (·.name)).Nodup ∧ ∀ f ∈ fs, f.name ∉ seen ∧ c.AdmitsField known f)
      (c.FieldsFail schema known seen fs) := by
  induction fs generalizing seen with
  | nil =>
      rw [fields]
      exact (settles_pure ([], [])).congr (by simp) fun e => iff_of_false id not_fieldsFail_nil
  | cons f rest ih =>
      rw [fields]
      by_cases hseen : f.name ∈ seen
      · rw [if_pos hseen]
        refine (settles_throw_bind _ _).congr (iff_of_false id fun h => ?_) fun e => ?_
        · exact (h.2 f List.mem_cons_self).1 hseen
        · rw [fieldsFail_cons_iff]
          constructor
          · rintro rfl
            exact .inl ⟨_, .duplicate hseen, rfl⟩
          · rintro (⟨fault, hfails, rfl⟩ | ⟨⟨hnew, -⟩, -⟩)
            · cases hfails with
              | duplicate => rfl
              | checkpoint hname _ _ _ => exact absurd hseen hname
              | nested hname _ _ _ => exact absurd hseen hname
              | step hname _ _ _ _ _ => exact absurd hseen hname
            · exact absurd hseen hnew
      · rw [if_neg hseen]
        have hfield := settles_field (c := c) schema known hseen
        refine (hfield.bind fun planned => (ih (f.name :: seen)).map).congr ?_ fun e => ?_
        · rw [nodup_new_cons_iff, and_iff_right hseen]
        · rw [fieldsFail_cons_iff, and_iff_right hseen]

theorem settles_schema (known : List String) (s : Schema) :
    Settles (c.schema known s) (c.AdmitsSchema known s) (c.SchemaFails known s) := by
  rw [schema]
  refine (settles_fields s.name known [] s.fields).map.congr ?_ fun e => ?_
  · constructor
    · rintro ⟨hdistinct, hfields⟩
      exact ⟨hdistinct, fun f hf => (hfields f hf).2⟩
    · intro h
      exact ⟨h.distinct, fun f hf => ⟨by simp, h.fields f hf⟩⟩
  · constructor
    · rintro ⟨before, f, after, fault, hfields, hdistinct, hbefore, hfails, rfl⟩
      exact .field hfields hdistinct (fun g hg => (hbefore g hg).2) hfails
    · rintro ⟨hfields, hdistinct, hbefore, hfails⟩
      exact ⟨_, _, _, _, hfields, hdistinct, fun g hg => ⟨by simp, hbefore g hg⟩, hfails, rfl⟩

/-! ### Lists of schemas -/

theorem repeated?_eq_none_iff {seen names : List String} :
    repeated? seen names = none ↔ names.Nodup ∧ ∀ name ∈ names, name ∉ seen := by
  induction names generalizing seen with
  | nil => simp [repeated?]
  | cons name names ih =>
      rw [repeated?]
      by_cases hseen : name ∈ seen
      · simp [hseen]
      · rw [if_neg hseen, ih, List.nodup_cons]
        simp only [List.mem_cons, not_or, forall_eq_or_imp, hseen, not_false_eq_true, true_and]
        constructor
        · rintro ⟨hdistinct, hrest⟩
          exact ⟨⟨fun hmem => (hrest name hmem).1 rfl, hdistinct⟩, fun other hother => (hrest other hother).2⟩
        · rintro ⟨⟨hname, hdistinct⟩, hrest⟩
          exact ⟨hdistinct, fun other hother => ⟨fun heq => hname (heq ▸ hother), hrest other hother⟩⟩

theorem repeated?_eq_some_iff {seen names : List String} {name : String} :
    repeated? seen names = some name ↔ ∃ before after, names = before ++ name :: after ∧
      repeated? seen before = none ∧ (name ∈ seen ∨ name ∈ before) := by
  induction names generalizing seen with
  | nil => simp [repeated?]
  | cons other names ih =>
      rw [repeated?]
      by_cases hseen : other ∈ seen
      · rw [if_pos hseen]
        constructor
        · intro h
          obtain rfl := Option.some.inj h
          exact ⟨[], names, rfl, rfl, .inl hseen⟩
        · rintro ⟨before, after, heq, hnone, -⟩
          cases before with
          | nil => rw [(List.cons.inj heq).1]
          | cons other' before =>
              obtain ⟨rfl, rfl⟩ := List.cons.inj heq
              simp [repeated?, hseen] at hnone
      · rw [if_neg hseen, ih]
        constructor
        · rintro ⟨before, after, rfl, hnone, hmem⟩
          refine ⟨other :: before, after, rfl, by rw [repeated?, if_neg hseen, hnone], ?_⟩
          simpa [or_left_comm, or_assoc] using hmem
        · rintro ⟨before, after, heq, hnone, hmem⟩
          cases before with
          | nil =>
              obtain ⟨rfl, rfl⟩ := List.cons.inj heq
              simp [hseen] at hmem
          | cons other' before =>
              obtain ⟨rfl, rfl⟩ := List.cons.inj heq
              rw [repeated?, if_neg hseen] at hnone
              refine ⟨before, after, rfl, hnone, ?_⟩
              simpa [or_left_comm, or_assoc] using hmem

theorem settles_compile (schemas : List Schema) :
    Settles (c.compile schemas) (c.Admits schemas) (c.Fails schemas) := by
  rw [compile]
  cases hrepeated : repeated? [] (schemas.map (·.name)) with
  | some name =>
      have hrepeats : ¬(schemas.map (·.name)).Nodup := by
        intro h
        rw [repeated?_eq_none_iff.2 ⟨h, by simp⟩] at hrepeated
        cases hrepeated
      refine (settles_throw_bind _ _).congr (iff_of_false id fun h => hrepeats h.distinct) fun e => ?_
      constructor
      · rintro rfl
        obtain ⟨names, names', hnames, hnone, hmem⟩ := repeated?_eq_some_iff.1 hrepeated
        obtain ⟨before, rest, rfl, rfl, hrest⟩ := List.map_eq_append_iff.1 hnames
        obtain ⟨s, after, rfl, rfl, rfl⟩ := List.map_eq_cons_iff.1 hrest
        exact .duplicate rfl (repeated?_eq_none_iff.1 hnone).1 (by simpa using hmem)
      · intro hfails
        cases hfails with
        | @duplicate before s after hschemas hdistinct h =>
            have hsome : repeated? [] (schemas.map (·.name)) = some s.name := by
              refine repeated?_eq_some_iff.2 ⟨before.map (·.name), after.map (·.name), by simp [hschemas], ?_, .inr h⟩
              exact repeated?_eq_none_iff.2 ⟨hdistinct, by simp⟩
            rw [Option.some.inj (hrepeated.symm.trans hsome)]
        | schema hdistinct _ _ _ => exact absurd hdistinct hrepeats
  | none =>
      have hdistinct := (repeated?_eq_none_iff.1 hrepeated).1
      have hschemas := settles_mapM schemas fun s _ => settles_schema (c := c) (schemas.map (·.name)) s
      refine hschemas.map.congr ⟨fun h => ⟨hdistinct, h⟩, fun h => h.schemas⟩ fun e => ?_
      constructor
      · rintro ⟨before, s, after, heq, hbefore, hfails⟩
        exact .schema hdistinct heq hbefore hfails
      · intro hfails
        cases hfails with
        | @duplicate before s after heq _ h =>
            rw [heq, List.map_append, List.map_cons] at hdistinct
            exact absurd h fun h => (List.nodup_append.1 hdistinct).2.2 _ h _ List.mem_cons_self rfl
        | schema _ heq hbefore h => exact ⟨_, _, _, heq, hbefore, h⟩

/-! ### Compiling -/

/-- A schema by itself is compiled as a list of one. -/
theorem run_compile_singleton (s : Schema) (store : PatternStore) :
    (c.compile [s]).run store =
      (((c.compileOne s).run store).1.map fun plan => ⟨[plan]⟩, ((c.compileOne s).run store).2) := by
  have hcompile : c.compile [s] = c.compileOne s >>= fun plan => pure ⟨[plan]⟩ := by
    simp [compile, compileOne, repeated?]
  rw [hcompile, run_bind]
  rcases (c.compileOne s).run store with ⟨_ | _, store'⟩ <;> rfl

/-- **Compilation accepts exactly the schemas that are admitted**, and of all others it tells the first thing wrong,
whatever patterns the store has come to know before. A schema by itself has a plan exactly if it has one as a list of
one, which is the same plan, and otherwise the same is told of it. -/
theorem compile_decides {store : PatternStore} (hstore : store.Grown) (schemas : List Schema) :
    ((∃ plans, ((c.compile schemas).run store).1 = .ok plans) ↔ c.Admits schemas) ∧
      (∀ e, ((c.compile schemas).run store).1 = .error e ↔ c.Fails schemas e) ∧
      ∀ s, (c.compile [s]).run store =
        (((c.compileOne s).run store).1.map fun plan => ⟨[plan]⟩, ((c.compileOne s).run store).2) :=
  have hsettles := settles_compile (c := c) schemas
  ⟨hsettles.ok store hstore.sound, hsettles.error store hstore.sound, fun s => run_compile_singleton s store⟩

/-- An order with many things wrong: the items have two checkpoints out of range, a schema that is not there and
lengths the wrong way round, and there are two numbers. -/
def muddledOrder : Schema :=
  ⟨"Order", [⟨"number", false, [⟨.required, none⟩], .ofList [1], none⟩,
    ⟨"items", true, [⟨.length 3 2, none⟩], .ofList [9, 4], some ⟨"Item", true⟩⟩,
    ⟨"number", true, [⟨.custom "", none⟩], .empty, none⟩]⟩

/-- Nothing is registered and patterns have at most ten characters. -/
def bare : Compiler :=
  ⟨.empty, 10⟩

theorem compile_decides_muddledOrder :
    (PatternStore.empty.vet 100 "^[A-Z]{2}[0-9]+$").2.Grown ∧
      ((bare.compile [muddledOrder]).run (PatternStore.empty.vet 100 "^[A-Z]{2}[0-9]+$").2).1 =
        .error (.inField "Order" "items" (.checkpointOutOfRange 4 1)) := by
  have hgrown : (PatternStore.empty.vet 100 "^[A-Z]{2}[0-9]+$").2.Grown := .vet .empty 100 "^[A-Z]{2}[0-9]+$"
  have hnumber : bare.AdmitsField ["Order"] ⟨"number", false, [⟨.required, none⟩], .ofList [1], none⟩ := by
    refine ⟨?_, by simp, ?_⟩
    · change ∀ p ∈ [1], p ≤ 1
      simp
    · intro s hs
      obtain rfl := List.mem_singleton.1 hs
      exact ⟨rfl, by simp, by simp⟩
  have hitems : bare.FieldFails ["Order"] ["number"]
      ⟨"items", true, [⟨.length 3 2, none⟩], .ofList [9, 4], some ⟨"Item", true⟩⟩ (.checkpointOutOfRange 4 1) := by
    refine .checkpoint (by decide) (show 4 ∈ [4, 9] by decide) (by decide) ?_
    change ∀ q ∈ [4, 9], 1 < q → 4 ≤ q
    simp
  have horder : bare.SchemaFails ["Order"] muddledOrder (.inField "Order" "items" (.checkpointOutOfRange 4 1)) :=
    .field (show muddledOrder.fields = [_] ++ _ :: [_] from rfl) (by simp) (by simpa using hnumber) hitems
  refine ⟨hgrown, ((compile_decides hgrown [muddledOrder]).2.1 _).2 ?_⟩
  exact .schema (by decide) (show [muddledOrder] = [] ++ _ :: [] from rfl) (by simp) horder

end Compiler

end Attest

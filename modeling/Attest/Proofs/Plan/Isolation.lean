import Attest.Plan.Chain

/-!
What a field reads of the object around it. A rule that is built in looks at the value it is asked about and at the
siblings that it names, and at nothing else; where one of them is absent, or where there is no object at all, it reads
null. So a chain that asks no predicate is the very same in two objects that agree on the names it reads.
-/

namespace Attest

/-- The two values read the same under the names, a member that is absent being read as null. -/
def Json.AgreesOn (names : List String) (object other : Json) : Prop :=
  ∀ name ∈ names, object.member name = other.member name

theorem Json.AgreesOn.mono {names more : List String} {object other : Json} (h : object.AgreesOn more other)
    (hnames : names ⊆ more) : object.AgreesOn names other := fun name hname =>
  h name (hnames hname)

namespace Rule

/-- The other fields of the object that the rule is about. -/
def siblings : Rule → List String
  | requiredIf field _ | requiredUnless field _ | requiredWith field | requiredWithout field
  | equalsField field | notEqualsField field => [field]
  | _ => []

/-- **A rule reads the object only through the siblings that it names.** -/
theorem accepts_congr {rule : Rule} {object other : Json} (h : object.AgreesOn rule.siblings other) (now : Timestamp)
    (value : Json) : rule.accepts now value object = rule.accepts now value other := by
  cases rule with
  | requiredIf field _ | requiredUnless field _ | requiredWith field | requiredWithout field =>
      have hfield : object.member field = other.member field := h field (List.mem_singleton_self field)
      simp only [accepts, hfield]
  | equalsField field | notEqualsField field =>
      have hfield : object.member field = other.member field := h field (List.mem_singleton_self field)
      simp only [accepts, Json.equalsField, hfield]
  | _ => rfl

end Rule

/-- The step asks no predicate. -/
def PlannedStep.BuiltIn (s : PlannedStep) : Prop :=
  ∀ predicate, s.matcher ≠ .custom predicate

instance (s : PlannedStep) : Decidable s.BuiltIn :=
  match h : s.matcher with
  | .builtIn => isTrue fun _ heq => by cases h.symm.trans heq
  | .pattern _ => isTrue fun _ heq => by cases h.symm.trans heq
  | .custom predicate => isFalse fun hbuiltIn => hbuiltIn predicate h

theorem PlannedStep.check_congr {s : PlannedStep} (hbuiltIn : s.BuiltIn) {object other : Json}
    (h : object.AgreesOn s.rule.siblings other) (value : Json) (ctx : Context) :
    s.check value object ctx = s.check value other ctx := by
  rw [check, check]
  cases hmatcher : s.matcher with
  | builtIn => simp only [Rule.accepts_congr h ctx.now value]
  | pattern vetted => rfl
  | custom predicate => exact absurd hmatcher (hbuiltIn predicate)

namespace PlannedField

/-- No step of the field asks a predicate. -/
def BuiltIn (f : PlannedField) : Prop :=
  ∀ s ∈ f.steps, s.BuiltIn

instance (f : PlannedField) : Decidable f.BuiltIn :=
  inferInstanceAs (Decidable (∀ s ∈ f.steps, s.BuiltIn))

/-- The names under which the field reads the object around it: its own, and those of the siblings that its rules are
about. -/
def reads (f : PlannedField) : List String :=
  f.name :: f.steps.flatMap (·.rule.siblings)

variable {f : PlannedField} {ctx : Context} {value object other : Json} {path : Path}

theorem chainFrom_congr {steps : List PlannedStep} (hbuiltIn : ∀ s ∈ steps, s.BuiltIn)
    (h : ∀ s ∈ steps, object.AgreesOn s.rule.siblings other) (position : Nat) (failed : Bool) :
    f.chainFrom ctx value object path position failed steps = f.chainFrom ctx value other path position failed steps := by
  induction steps generalizing position failed with
  | nil => rfl
  | cons s rest ih =>
      have hrest := ih (fun t ht => hbuiltIn t (List.mem_cons_of_mem s ht)) fun t ht => h t (List.mem_cons_of_mem s ht)
      have hcheck := PlannedStep.check_congr (hbuiltIn s List.mem_cons_self) (h s List.mem_cons_self) value ctx
      simp only [chainFrom, hcheck, hrest]

/-- The chain of a field, as an activity with all its pauses, is the same in objects that agree on what it reads. -/
theorem chain_congr (hbuiltIn : f.BuiltIn) (h : object.AgreesOn f.reads other) :
    f.chain ctx value object path = f.chain ctx value other path := by
  have hsteps (s : PlannedStep) (hs : s ∈ f.steps) : object.AgreesOn s.rule.siblings other :=
    h.mono fun _ hname => List.mem_cons_of_mem f.name (List.mem_flatMap.2 ⟨s, hs, hname⟩)
  simp only [chain, chainFrom_congr hbuiltIn hsteps]

end PlannedField

end Attest

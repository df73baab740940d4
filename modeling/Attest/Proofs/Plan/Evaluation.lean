import Attest.Plan.Chain
import Attest.Proofs.Plan.Faithfulness

/-!
Two ways to decide a value. A planned step carries its pattern with it, vetted under the limit of the compiler. A rule
that is evaluated without a plan vets its pattern anew for each text, under the default limit and with the help of a
store that others use as well.

Both come to the same verdict as long as the compiler is not more generous than the default. What was vetted under
the smaller limit is then vetted under the larger one, with the same outcome, and no store changes that.
-/

namespace Attest

theorem Pattern.vet_of_le {limit larger : Nat} {source : String} {vetted : Vetted} (h : limit ≤ larger)
    (hvet : vet limit source = .ok vetted) : vet larger source = .ok vetted := by
  by_cases hlong : source.length > limit
  · rw [vet_of_tooLong (if_pos hlong)] at hvet
    cases hvet
  · have hlength : ¬source.length > larger := by omega
    rw [vet_of_checkLength (if_neg hlong)] at hvet
    rw [vet_of_checkLength (if_neg hlength), hvet]

namespace Rule

variable {store : PatternStore} {source : String}

theorem acceptsWith_string (store : PatternStore) (source text : String) (now : Timestamp) (parent : Json) :
    acceptsWith store (.pattern source) now (.string text) parent =
      (match (store.vet Pattern.defaultLimit source).1 with
        | .ok vetted => vetted.regex.matchesIn text
        | .error _ => false, (store.vet Pattern.defaultLimit source).2) := by
  rw [acceptsWith]
  rcases store.vet Pattern.defaultLimit source with ⟨_ | _, _⟩ <;> rfl

theorem acceptsWith_of_no_text {rule : Rule} {value : Json}
    (h : ¬∃ source text, rule = .pattern source ∧ value = .string text) (now : Timestamp) (parent : Json) :
    rule.acceptsWith store now value parent = (rule.accepts now value parent, store) := by
  rw [acceptsWith.eq_def]
  split
  next source text => exact absurd ⟨source, text, rfl, rfl⟩ h
  next => rfl

/-- **A store is not noticed in an evaluation**, and it is left such that it will not be noticed in the next one. -/
theorem acceptsWith_eq (hstore : store.Grown) (rule : Rule) (now : Timestamp) (value parent : Json) :
    (rule.acceptsWith store now value parent).1 = rule.accepts now value parent ∧
      (rule.acceptsWith store now value parent).2.Grown := by
  by_cases h : ∃ source text, rule = .pattern source ∧ value = .string text
  · obtain ⟨source, text, rfl, rfl⟩ := h
    rw [acceptsWith_string, (hstore.sound.vet Pattern.defaultLimit source).1]
    exact ⟨rfl, hstore.vet Pattern.defaultLimit source⟩
  · rw [acceptsWith_of_no_text h]
    exact ⟨rfl, hstore⟩

theorem accepts_pattern {vetted : Pattern.Vetted} (hvet : Pattern.vet Pattern.defaultLimit source = .ok vetted)
    (now : Timestamp) (value parent : Json) :
    (Rule.pattern source).accepts now value parent = value.isString vetted.regex.matchesIn := by
  have hmatches : matchesPattern source = vetted.regex.matchesIn := by
    funext text
    rw [matchesPattern, hvet]
  rw [accepts, hmatches]

end Rule

theorem Json.isString_eq_false {value : Json} (h : ∀ text, value ≠ .string text) (p : String → Bool) :
    value.isString p = false := by
  cases value with
  | string text => exact absurd rfl (h text)
  | _ => rfl

namespace Compiler

variable {c : Compiler} {s : Step} {planned : PlannedStep}

/-- What a plan has of a pattern is what vetting by default says of it. -/
theorem StepMatches.exists_vetted (h : c.StepMatches s planned) (hlimit : c.maxPatternLength ≤ Pattern.defaultLimit)
    {source : String} (hsource : s.rule = .pattern source) :
    ∃ vetted, planned.matcher = .pattern vetted.regex ∧ Pattern.vet Pattern.defaultLimit source = .ok vetted := by
  have hmatcher := h.matcher
  rw [hsource] at hmatcher
  obtain ⟨vetted, hvetted, hvet⟩ := hmatcher.exists_vetted
  exact ⟨vetted, hvetted, Pattern.vet_of_le hlimit hvet⟩

/-- A step comes to the verdict of its rule, by whatever matcher it was given. -/
theorem StepMatches.check_eq (h : c.StepMatches s planned) (hlimit : c.maxPatternLength ≤ Pattern.defaultLimit)
    (hcustom : ∀ name, s.rule ≠ .custom name) (value parent : Json) (ctx : Context) :
    planned.check value parent ctx = .done (.ok (.ofBool (s.rule.accepts ctx.now value parent))) := by
  by_cases hpattern : ∃ source, s.rule = .pattern source
  · obtain ⟨source, hsource⟩ := hpattern
    obtain ⟨vetted, hvetted, hvet⟩ := h.exists_vetted hlimit hsource
    rw [PlannedStep.check, hvetted, hsource, Rule.accepts_pattern hvet]
  · rw [PlannedStep.check, h.matcher.eq_builtIn (fun source hsource => hpattern ⟨source, hsource⟩) hcustom,
      h.rule_eq]

/-- **A planned step agrees with an evaluation of its rule**, for a compiler that admits no longer patterns than the
default, whatever the store that the step was compiled with knew and whatever the one of the evaluation knows.
For a pattern the expression in the plan is the one that the store of the evaluation answers. Both ways give each text
to it, and both turn down what is no text. -/
theorem check_agrees_with_evaluation {fail : FieldFault → SchemaError} {field : String}
    {warnings : List PatternWarning} {compiling shared : PatternStore}
    (hlimit : c.maxPatternLength ≤ Pattern.defaultLimit) (hcompiling : compiling.Grown) (hshared : shared.Grown)
    (hcustom : ∀ name, s.rule ≠ .custom name) (h : ((c.step fail field s).run compiling).1 = .ok (planned, warnings)) :
    (∀ value parent ctx,
        planned.check value parent ctx = .done (.ok (.ofBool (s.rule.acceptsWith shared ctx.now value parent).1)) ∧
          (s.rule.acceptsWith shared ctx.now value parent).1 = s.rule.accepts ctx.now value parent ∧
          (s.rule.acceptsWith shared ctx.now value parent).2.Grown) ∧
      ∀ source, s.rule = .pattern source → ∃ vetted, planned.matcher = .pattern vetted.regex ∧
        (shared.vet Pattern.defaultLimit source).1 = .ok vetted ∧
        ∀ parent ctx,
          (∀ text, planned.check (.string text) parent ctx = .done (.ok (.ofBool (vetted.regex.matchesIn text))) ∧
            (s.rule.acceptsWith shared ctx.now (.string text) parent).1 = vetted.regex.matchesIn text) ∧
          ∀ value, (∀ text, value ≠ .string text) →
            planned.check value parent ctx = .done (.ok (.ofBool false)) ∧
              (s.rule.acceptsWith shared ctx.now value parent).1 = false := by
  rw [(c.steady_step fail field s).answer_eq hcompiling.sound] at h
  obtain ⟨hstep, -⟩ := stepMatches_of_step h
  have hcheck := hstep.check_eq hlimit hcustom
  have hevaluation := Rule.acceptsWith_eq hshared s.rule
  refine ⟨fun value parent ctx => ?_, fun source hsource => ?_⟩
  · obtain ⟨hverdict, hgrown⟩ := hevaluation ctx.now value parent
    rw [hverdict]
    exact ⟨hcheck value parent ctx, rfl, hgrown⟩
  · obtain ⟨vetted, hvetted, hvet⟩ := hstep.exists_vetted hlimit hsource
    refine ⟨vetted, hvetted, (hshared.sound.vet _ source).1.trans hvet, fun parent ctx =>
      ⟨fun text => ?_, fun value hvalue => ?_⟩⟩
    · rw [hcheck, (hevaluation _ _ _).1, hsource, Rule.accepts_pattern hvet]
      exact ⟨rfl, rfl⟩
    · rw [hcheck, (hevaluation _ _ _).1, hsource, Rule.accepts_pattern hvet, Json.isString_eq_false hvalue]
      exact ⟨rfl, rfl⟩

/-- The store of the evaluation knows the pattern from somebody who admits longer ones. -/
theorem check_agrees_with_evaluation_endsInX :
    ∃ planned warnings,
      ((bare.step (.inField "Order" "note") "note" ⟨.pattern "^.*x$", none⟩).run
          (PatternStore.empty.vet 100 "^[A-Z]{2}[0-9]+$").2).1 = .ok (planned, warnings) ∧
        ∀ parent ctx, planned.check (.string "box") parent ctx = .done (.ok .valid) ∧
          planned.check (.string "boxes") parent ctx = .done (.ok (.invalid none)) ∧
          planned.check (.bool true) parent ctx = .done (.ok (.invalid none)) ∧
          ((Rule.pattern "^.*x$").acceptsWith (PatternStore.empty.vet 20000 "^.*x$").2 ctx.now
            (.string "box") parent).1 = true := by
  have hbox : Rule.matchesPattern "^.*x$" "box" = true ∧ Rule.matchesPattern "^.*x$" "boxes" = false := by
    decide +kernel
  have hcompiles : ((bare.step (.inField "Order" "note") "note" ⟨.pattern "^.*x$", none⟩).run
      (PatternStore.empty.vet 100 "^[A-Z]{2}[0-9]+$").2).1.toOption.isSome = true := by decide +kernel
  cases hstep : ((bare.step (.inField "Order" "note") "note" ⟨.pattern "^.*x$", none⟩).run
      (PatternStore.empty.vet 100 "^[A-Z]{2}[0-9]+$").2).1 with
  | error e => simp [hstep, Except.toOption] at hcompiles
  | ok found =>
      obtain ⟨planned, warnings⟩ := found
      refine ⟨planned, warnings, rfl, fun parent ctx => ?_⟩
      have hagrees (value : Json) := (check_agrees_with_evaluation (by decide) (.vet .empty 100 "^[A-Z]{2}[0-9]+$")
        (.vet .empty 20000 "^.*x$") (by simp) hstep).1 value parent ctx
      have hverdict (value : Json) {b : Bool} (h : (Rule.pattern "^.*x$").accepts ctx.now value parent = b) :
          planned.check value parent ctx = .done (.ok (.ofBool b)) := by
        rw [(hagrees value).1, (hagrees value).2.1, h]
      exact ⟨hverdict (.string "box") hbox.1, hverdict (.string "boxes") hbox.2, hverdict (.bool true) rfl,
        (hagrees (.string "box")).2.1.trans hbox.1⟩

end Compiler

end Attest

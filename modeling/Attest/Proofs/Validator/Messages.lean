import Attest.Proofs.Call.Muting
import Attest.Proofs.Validator.Depth

/-!
Messages decide nothing. Whatever the locale of a context is and wherever its messages come from, even if all of them
are empty or the same, a call finds fault with the same places, and as often with each of them; only what is said
there is up to the messages.
-/

namespace Attest

/-- The same context with messages of another locale and from elsewhere. -/
def Context.withMessages (ctx : Context) (locale : Locale) (resolver : Resolver) : Context :=
  (ctx.withLocale locale).withResolver resolver

/-- The predicates that plans ask come to the same answer whatever the locale is and wherever messages come from. -/
def PlanSet.IgnoresMessages (ps : PlanSet) : Prop :=
  ∀ plan ∈ ps.plans, ∀ f ∈ plan.fields, ∀ s ∈ f.steps, ∀ predicate, s.matcher = .custom predicate →
    ∀ value parent (ctx : Context) locale resolver,
      (predicate value parent (ctx.withMessages locale resolver)).answer = (predicate value parent ctx).answer

namespace Validator

variable {v : Validator}

theorem echoes_withMessages (hignores : v.plans.IgnoresMessages) (ctx : Context) (locale : Locale)
    (resolver : Resolver) :
    (v.call ctx).Echoes (v.call (ctx.withMessages locale resolver)) where
  plans := rfl
  policy := rfl
  maxDepth := rfl
  verdict plan hplan f hf s hs value parent := by
    rw [PlannedStep.verdict, PlannedStep.verdict, PlannedStep.check, PlannedStep.check]
    cases hmatcher : s.matcher with
    | builtIn => rfl
    | pattern vetted => rfl
    | custom predicate => exact (hignores plan hplan f hf s hs predicate hmatcher value parent ctx locale resolver).symm

theorem muted_task_eq (hignores : v.plans.IgnoresMessages) (ctx : Context) (locale : Locale) (resolver : Resolver)
    (schema : String) (value : Json) :
    (v.task ctx schema value).muted = (v.task (ctx.withMessages locale resolver) schema value).muted := by
  have hechoes := echoes_withMessages hignores ctx locale resolver
  cases hplan : v.plans.get? schema with
  | none => simp only [task, Call.task, call, hplan]
  | some plan =>
      rw [task_eq hplan, task_eq hplan]
      exact hechoes.muted_fields (PlanSet.mem_of_get? hplan) value .root

/-- Two results that are the same when muted: the same abort, or reports of the same shape. -/
theorem exists_of_muted_eq {t t' : Task} (h : t.muted = t'.muted) :
    (∃ abort, t.result = .error abort ∧ t'.result = .error abort) ∨
      ∃ report other, t.result = .ok report ∧ t'.result = .ok other ∧ report.SameShape other := by
  rw [Task.muted, Task.muted] at h
  cases hresult : t.result with
  | error abort =>
      cases hresult' : t'.result with
      | error abort' =>
          rw [hresult, hresult'] at h
          obtain rfl : abort = abort' := Except.error.inj h
          exact .inl ⟨abort, rfl, rfl⟩
      | ok other =>
          rw [hresult, hresult'] at h
          cases h
  | ok report =>
      cases hresult' : t'.result with
      | error abort =>
          rw [hresult, hresult'] at h
          cases h
      | ok other =>
          rw [hresult, hresult'] at h
          exact .inr ⟨report, other, rfl, rfl, Report.sameShape_of_mute (Except.ok.inj h)⟩

/-- **Messages decide nothing.** Take two contexts that differ in nothing but their locale and where their messages come
from, and plans whose predicates look at neither. With the fields done in order, the two calls on a value abort with
the same, or they come to reports with the same paths in the same order and with as many messages for each path. Under
any two schedules both abort, or both come to such reports. -/
theorem messages_decide_nothing (hignores : v.plans.IgnoresMessages) (ctx : Context) (locale : Locale)
    (resolver : Resolver) (schema : String) (value : Json) :
    ((∃ abort, v.report ctx schema value = .error abort ∧
        v.report (ctx.withMessages locale resolver) schema value = .error abort) ∨
      ∃ report other, v.report ctx schema value = .ok report ∧
        v.report (ctx.withMessages locale resolver) schema value = .ok other ∧ report.SameShape other) ∧
    ∀ result result', v.MayComeTo ⟨ctx, schema, value⟩ result →
      v.MayComeTo ⟨ctx.withMessages locale resolver, schema, value⟩ result' →
        (∃ abort abort', result = .error abort ∧ result' = .error abort') ∨
          ∃ report other, result = .ok report ∧ result' = .ok other ∧ report.SameShape other := by
  have hordered := exists_of_muted_eq (muted_task_eq hignores ctx locale resolver schema value)
  refine ⟨hordered, fun result result' hmay hmay' => ?_⟩
  have hends := result_of_faithful hmay.faithful
  have hends' := result_of_faithful hmay'.faithful
  rcases hordered with ⟨abort, habort, habort'⟩ | ⟨report, other, hreport, hother, hshape⟩
  · obtain ⟨first, hfirst, -⟩ := hends.2 abort habort
    obtain ⟨second, hsecond, -⟩ := hends'.2 abort habort'
    exact .inl ⟨first, second, hfirst, hsecond⟩
  · exact .inr ⟨report, other, hends.1 report hreport, hends'.1 other hother, hshape⟩

/-- Reviews that have to be polite, which a predicate says after a while, and whose author has a name. -/
def reviews : Validator where
  plans := ⟨[
    ⟨"Review", [⟨"text", false, [.ofStep ⟨.custom "polite", none⟩
        (.custom fun _ _ _ => .pause (.done (.ok (.invalid (some "be polite"))))),
        .ofStep ⟨.minLength 9, none⟩ .builtIn], .empty, none⟩,
      ⟨"author", false, [], .empty, some ⟨"Author", false⟩⟩], []⟩,
    ⟨"Author", [⟨"name", false, [.ofStep ⟨.notBlank, none⟩ .builtIn], .empty, none⟩], []⟩]⟩
  settings := .standard
  dispatcher := ⟨some 1⟩

def rudeReview : Json :=
  .object [("author", .object [("name", .string " ")]), ("text", .string "No!")]

def rudeReport : Report where
  entries := [("text", ["be polite", "min_length"]), ("author.name", ["not_blank"])]

/-- No message, in German and after a pause. -/
def silently (ctx : Context) : Context :=
  ctx.withMessages (.ofTag "de") fun _ _ _ => .pause (.done "")

/-- The same review with messages and without, both polled in turn with a single permit. -/
def reviewsAfter (rounds : Nat) : System :=
  (List.replicate rounds [0, 1]).flatten.foldl System.turn (.start ⟨some 1⟩ (reviews.tasks
    [⟨reviews.keysOnly, "Review", rudeReview⟩, ⟨silently reviews.keysOnly, "Review", rudeReview⟩]))

theorem messages_decide_nothing_rudeReview :
    reviews.plans.IgnoresMessages ∧
      reviews.report reviews.keysOnly "Review" rudeReview = .ok rudeReport ∧
      ∃ other, reviews.report (silently reviews.keysOnly) "Review" rudeReview = .ok other ∧
        rudeReport.SameShape other ∧
        (reviewsAfter 9).result? 0 = some (.ok rudeReport) ∧
        ∃ later, (reviewsAfter 9).result? 1 = some (.ok later) ∧ rudeReport.SameShape later := by
  have hignores : reviews.plans.IgnoresMessages := by
    intro plan hplan f hf s hs predicate hmatcher value parent ctx locale resolver
    simp only [reviews, List.mem_cons, List.not_mem_nil, or_false] at hplan
    rcases hplan with rfl | rfl <;> simp only [List.mem_cons, List.not_mem_nil, or_false] at hf
    · rcases hf with rfl | rfl
      · simp only [List.mem_cons, List.not_mem_nil, or_false] at hs
        rcases hs with rfl | rfl
        · obtain rfl := Matcher.custom.inj hmatcher
          rfl
        · cases hmatcher
      · cases hs
    · subst hf
      obtain rfl := List.mem_singleton.1 hs
      cases hmatcher
  have hreport : reviews.report reviews.keysOnly "Review" rudeReview = .ok rudeReport := by decide +kernel
  obtain ⟨hordered, hscheduled⟩ := messages_decide_nothing hignores reviews.keysOnly (.ofTag "de")
    (fun _ _ _ => .pause (.done "")) "Review" rudeReview
  have hfirst : (reviewsAfter 9).result? 0 = some (.ok rudeReport) := by decide +kernel
  have hlast : ∃ result, (reviewsAfter 9).result? 1 = some result := Option.isSome_iff_exists.1 (by decide +kernel)
  obtain ⟨result, hlast⟩ := hlast
  rcases hordered with ⟨abort, habort, -⟩ | ⟨report, other, hother, hsilent, hshape⟩
  · cases hreport.symm.trans habort
  · obtain rfl := Except.ok.inj (hreport.symm.trans hother)
    refine ⟨hignores, hreport, other, hsilent, hshape, hfirst, ?_⟩
    rcases hscheduled _ _ ⟨⟨some 1⟩, _, reviewsAfter 9, 0, rfl, System.reaches_turns _ _, hfirst⟩
        ⟨⟨some 1⟩, _, reviewsAfter 9, 1, rfl, System.reaches_turns _ _, hlast⟩ with
      ⟨_, _, herror, -⟩ | ⟨_, later, heq, rfl, hlater⟩
    · cases herror
    · obtain rfl := Except.ok.inj heq
      exact ⟨later, hlast, hlater⟩

end Validator

end Attest

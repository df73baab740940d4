import Attest.Proofs.Rule.Document
import Attest.Validator

/-!
Whether a validator can be started with settings that were read.

Settings that are accepted ask for one permit at least, and for as many more as a 64-bit word can count. A dispatcher
has fewer of them to give, and the check of settings does not know how many. So settings are good to start with just
if what they ask for is within the permits of a dispatcher, which not all accepted settings are.
-/

namespace Attest

namespace Settings

variable {text : String} {s : Settings} {parallelism : Nat}

/-! ### What a document may ask for -/

theorem yields_decoder : Decoder.Yields decoder fun s => ∀ n ∈ s.maxConcurrency, n < Nat.pow 2 64 := by
  intro depth d s hd h
  obtain ⟨p, hp, h⟩ := Fault.bind_eq_ok_iff.1 h
  obtain rfl := Except.ok.inj h
  refine Decoder.yields_record (I := fun p : Progress => ∀ n ∈ p.concurrency, n < Nat.pow 2 64) (by simp) ?_
    depth d p hd hp
  simp only [List.forall_mem_cons]
  refine ⟨?_, ?_, ?_, ?_, by simp⟩
  all_goals
    intro p depth d p' hd hp hp'
    obtain ⟨new, hnew, heq⟩ := Fault.bind_eq_ok_iff.1 hp'
    obtain rfl := Except.ok.inj heq
  · exact (Decoder.yields_natural 64).once hd hnew
  -- The other fields leave the permits alone.
  all_goals exact hp

theorem read_eq_ok_iff : read text = .ok s ↔ ofDocument text = .ok s ∧ s.check = .ok () := by
  rw [read]
  cases hdocument : ofDocument text with
  | error fault => simp [Except.mapError, bind, Except.bind]
  | ok s' =>
      cases hcheck : s'.check with
      | error defect =>
          simp only [Except.mapError, bind, Except.bind, hcheck, Except.ok.injEq]
          refine iff_of_false (by simp) ?_
          rintro ⟨rfl, hok⟩
          rw [hcheck] at hok
          cases hok
      | ok =>
          simp only [Except.mapError, bind, Except.bind, hcheck, Except.ok.injEq, pure, Except.pure]
          exact ⟨fun h => ⟨h, h ▸ hcheck⟩, And.left⟩

theorem check_eq_ok_iff :
    s.check = .ok () ↔ s.maxConcurrency ≠ some 0 ∧ s.maxDepth ≠ 0 ∧ s.maxPatternLength ≠ 0 := by
  rw [check]
  split_ifs <;> simp [*]

/-- A document that says nothing but how many chains may run at once. -/
def concurrencyDocument (n : Nat) : String :=
  String.ofList (Json.renderFields [("max_concurrency", Rule.countText n)])

theorem read_concurrencyDocument {n : Nat} (hpos : 0 < n) (h : n < Nat.pow 2 64) :
    read (concurrencyDocument n) = .ok { standard with maxConcurrency := some n } := by
  have hspells : Draft.Spells (Json.renderFields [("max_concurrency", Rule.countText n)])
      (.object [("max_concurrency", Rule.countDraft n)] none) :=
    Draft.spells_fields (.cons ⟨rfl, Rule.spells_countText h⟩ .nil)
  have hnatural (depth : Nat) : Decoder.natural 64 depth (Rule.countDraft n) = .ok n := Rule.count_countDraft h depth
  rw [read_eq_ok_iff, ofDocument, concurrencyDocument, Decoder.decodeText_of_spells hspells, check_eq_ok_iff]
  have hdepth : standard.maxDepth ≠ 0 := by decide
  have hlength : standard.maxPatternLength ≠ 0 := by decide
  refine ⟨?_, by simpa using Nat.ne_of_gt hpos, hdepth, hlength⟩
  simp [decoder, Decoder.nesting, Decoder.record, List.lookup_cons, hnatural]

/-- Any number of permits may be asked for that is not zero and that a 64-bit word can hold. -/
theorem exists_read_iff {n : Nat} :
    (∃ text s, read text = .ok s ∧ s.maxConcurrency = some n) ↔ 0 < n ∧ n < Nat.pow 2 64 := by
  constructor
  · rintro ⟨text, s, hread, hn⟩
    obtain ⟨hdocument, hcheck⟩ := read_eq_ok_iff.1 hread
    obtain ⟨hvalue, -⟩ := Decoder.decodeText_eq_ok_iff.1 hdocument
    have hne : n ≠ 0 := by
      rintro rfl
      exact (check_eq_ok_iff.1 hcheck).1 hn
    exact ⟨Nat.pos_of_ne_zero hne, yields_decoder _ _ s (Draft.proper_ofText text) hvalue n hn⟩
  · rintro ⟨hpos, h⟩
    exact ⟨_, _, read_concurrencyDocument hpos h, rfl⟩

/-! ### Starting -/

/-- A validator can be started with the settings, of any plans and of any schemas that compile, and its dispatcher has
as many permits as the settings ask for. -/
structure Starts (s : Settings) (parallelism : Nat) : Prop where
  dispatcher : s.dispatcher? parallelism = some ⟨some (s.concurrency parallelism)⟩
  ofPlans : ∀ plans, Validator.ofPlans plans s parallelism = .ok ⟨plans, s, ⟨some (s.concurrency parallelism)⟩⟩
  build : ∀ registry schemas plans,
    (((⟨registry, s.maxPatternLength⟩ : Compiler).compile schemas).run PatternStore.empty).1 = .ok plans →
      Validator.build registry s parallelism schemas = .ok ⟨plans, s, ⟨some (s.concurrency parallelism)⟩⟩

/-- Whatever a validator is to be started of, it cannot be for the permits that the settings ask for. -/
structure Refused (s : Settings) (parallelism : Nat) : Prop where
  dispatcher : s.dispatcher? parallelism = none
  ofPlans : ∀ plans, Validator.ofPlans plans s parallelism = .error (.tooManyPermits (s.concurrency parallelism))
  build : ∀ registry schemas plans,
    (((⟨registry, s.maxPatternLength⟩ : Compiler).compile schemas).run PatternStore.empty).1 = .ok plans →
      Validator.build registry s parallelism schemas = .error (.tooManyPermits (s.concurrency parallelism))

theorem build_eq_ofPlans {registry : Registry} {schemas : List Schema} {plans : PlanSet}
    (h : (((⟨registry, s.maxPatternLength⟩ : Compiler).compile schemas).run PatternStore.empty).1 = .ok plans) :
    Validator.build registry s parallelism schemas = Validator.ofPlans plans s parallelism := by
  rw [Validator.build]
  -- The store that compilation leaves behind is dropped, so only the plans count.
  split
  next heq =>
    rw [heq] at h
    rw [Except.ok.inj h]
  next heq =>
    rw [heq] at h
    cases h

theorem starts_of_le (hpos : 0 < s.concurrency parallelism)
    (h : s.concurrency parallelism ≤ Dispatcher.maxPermits) : s.Starts parallelism := by
  have hdispatcher : s.dispatcher? parallelism = some ⟨some (s.concurrency parallelism)⟩ := by
    rw [dispatcher?, Dispatcher.bounded?, if_pos h]
    simp [Nat.max_eq_left hpos]
  have hplans (plans) : Validator.ofPlans plans s parallelism =
      .ok ⟨plans, s, ⟨some (s.concurrency parallelism)⟩⟩ := by
    rw [Validator.ofPlans, hdispatcher]
  exact ⟨hdispatcher, hplans, fun registry schemas plans hcompile => by rw [build_eq_ofPlans hcompile, hplans]⟩

theorem refused_of_lt (h : Dispatcher.maxPermits < s.concurrency parallelism) : s.Refused parallelism := by
  have hdispatcher : s.dispatcher? parallelism = none := by
    rw [dispatcher?, Dispatcher.bounded?, if_neg (Nat.not_le.2 h)]
  have hplans (plans) :
      Validator.ofPlans plans s parallelism = .error (.tooManyPermits (s.concurrency parallelism)) := by
    rw [Validator.ofPlans, hdispatcher]
  exact ⟨hdispatcher, hplans, fun registry schemas plans hcompile => by rw [build_eq_ofPlans hcompile, hplans]⟩

theorem concurrency_pos (hpos : 0 < parallelism) (h : s.check = .ok ()) : 0 < s.concurrency parallelism := by
  have hne := (check_eq_ok_iff.1 h).1
  rw [concurrency]
  cases hn : s.maxConcurrency with
  | none => exact hpos
  | some n =>
      refine Nat.pos_of_ne_zero fun hzero => hne ?_
      obtain rfl : n = 0 := hzero
      exact hn

theorem Starts.not_refused (h : s.Starts parallelism) : ¬s.Refused parallelism := by
  intro hrefused
  have hnone := hrefused.dispatcher
  rw [h.dispatcher] at hnone
  cases hnone

/-- **A validator starts with accepted settings unless they ask for too much.** Accepted settings may ask for any
number of permits that a 64-bit word can hold, apart from zero. A validator can be started with them just if a
dispatcher can count so many, and otherwise it is refused. -/
theorem starts_unless_crowded (hpos : 0 < parallelism) :
    (∀ text s, read text = .ok s →
      (s.Starts parallelism ↔ s.concurrency parallelism ≤ Dispatcher.maxPermits) ∧
        (s.Refused parallelism ↔ Dispatcher.maxPermits < s.concurrency parallelism)) ∧
      ∀ n, (∃ text s, read text = .ok s ∧ s.maxConcurrency = some n) ↔ 0 < n ∧ n < Nat.pow 2 64 := by
  refine ⟨fun text s hread => ?_, fun _ => exists_read_iff⟩
  have hasked := concurrency_pos hpos (read_eq_ok_iff.1 hread).2
  refine ⟨⟨fun hstarts => ?_, starts_of_le hasked⟩, ⟨fun hrefused => ?_, refused_of_lt⟩⟩
  · exact Nat.not_lt.1 fun hlt => hstarts.not_refused (refused_of_lt hlt)
  · exact Nat.not_le.1 fun hle => (starts_of_le hasked hle).not_refused hrefused

theorem starts_unless_crowded_eight :
    read (concurrencyDocument 8) = .ok { standard with maxConcurrency := some 8 } ∧
      Starts { standard with maxConcurrency := some 8 } 4 := by
  have hread : read (concurrencyDocument 8) = .ok { standard with maxConcurrency := some 8 } :=
    read_concurrencyDocument (by decide) (by decide)
  exact ⟨hread, ((starts_unless_crowded (show 0 < 4 by decide)).1 _ _ hread).1.2 (by decide)⟩

/-- One permit more than there can be, which the check of settings does not turn away. -/
theorem too_many_permits_accepted :
    ∃ s, read "\x7b\"max_concurrency\":2305843009213693952\x7d" = .ok s ∧
      s.maxConcurrency = some 2305843009213693952 ∧ ∀ parallelism, s.Refused parallelism ∧ ¬s.Starts parallelism := by
  have htext : concurrencyDocument 2305843009213693952 = "\x7b\"max_concurrency\":2305843009213693952\x7d" := by
    decide +kernel
  have hread := read_concurrencyDocument (n := 2305843009213693952) (by decide) (by decide)
  rw [htext] at hread
  refine ⟨_, hread, rfl, fun parallelism => ?_⟩
  have hlt : Dispatcher.maxPermits < 2305843009213693952 := by decide
  have hrefused : Refused { standard with maxConcurrency := some 2305843009213693952 } parallelism := refused_of_lt hlt
  exact ⟨hrefused, fun hstarts => hstarts.not_refused hrefused⟩

end Settings

end Attest

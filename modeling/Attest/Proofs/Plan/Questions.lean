import Attest.Proofs.Call.Satisfaction
import Attest.Proofs.Plan.Faithfulness

/-!
Which steps of a chain are asked. A failure lets the chain go on to the next checkpoint, and what is asked is said
here by positions: `Interview` describes them without walking the chain, and the chain asks exactly these, in
ascending order and each once.

Being asked cannot be seen in an answer, since a step that finds the value valid leaves nothing behind. So the steps
of a field are made to note a line whenever they are asked (`noting`), and then the chain tells by its notes.
-/

namespace Attest

namespace Activity

variable {α β : Type}

/-- All notes on the way to the answer. -/
def notes : Activity α → List String
  | .done _ => []
  | .note line rest => line :: rest.notes
  | .pause rest => rest.notes

@[simp] theorem notes_done (a : α) : (done a).notes = [] := rfl

@[simp] theorem notes_pure (a : α) : (pure a : Activity α).notes = [] := rfl

@[simp] theorem notes_note (line : String) (rest : Activity α) : (note line rest).notes = line :: rest.notes := rfl

@[simp] theorem notes_andThen (x : Activity α) (f : α → Activity β) :
    (x >>= f).notes = x.notes ++ (f x.answer).notes := by
  change (x.bind f).notes = _
  induction x with
  | done a => rfl
  | note line rest ih => exact congrArg (line :: ·) ih
  | pause rest ih => exact ih

/-- Of what comes after an activity only that counts which goes with its answer. -/
theorem andThen_congr {x : Activity α} {f g : α → Activity β} (h : f x.answer = g x.answer) : x >>= f = x >>= g := by
  change x.bind f = x.bind g
  induction x with
  | done a => exact h
  | note line rest ih => exact congrArg (note line) (ih h)
  | pause rest ih => exact congrArg pause (ih h)

end Activity

namespace PlannedStep

variable (s : PlannedStep) (line : String) (ctx : Context) (value parent : Json) (path : Path)

/-- The step, made to note a line whenever it is asked. -/
def noting : PlannedStep :=
  { s with matcher := .custom fun value parent ctx => .note line (s.check value parent ctx) }

/-- What is noted when the step is asked: by its check, and by the message that it leaves. -/
def notes : List String :=
  (s.check value parent ctx).notes ++
    match s.verdict ctx value parent with
    | .ok (.invalid detail) => (s.message detail ctx).notes
    | _ => []

/-- Whether the step comes to a verdict. -/
def answers : Bool :=
  (s.verdict ctx value parent).isOk

@[simp] theorem concerns_noting : (s.noting line).concerns value = s.concerns value := rfl

@[simp] theorem verdict_noting : (s.noting line).verdict ctx value parent = s.verdict ctx value parent := rfl

@[simp] theorem complaint?_noting : (s.noting line).complaint? ctx value parent = s.complaint? ctx value parent := rfl

@[simp] theorem answers_noting : (s.noting line).answers ctx value parent = s.answers ctx value parent := rfl

@[simp] theorem notes_noting : (s.noting line).notes ctx value parent = line :: s.notes ctx value parent := rfl

theorem abort?_eq_none_iff : s.abort? ctx value parent path = none ↔ s.answers ctx value parent = true := by
  rw [abort?, answers]
  cases s.verdict ctx value parent <;> simp [Except.isOk, Except.toBool]

end PlannedStep

namespace PlannedField

variable (f : PlannedField) (ctx : Context) (value parent : Json) (path : Path)

/-! ### Positions -/

def concernsAt (p : Nat) : Bool :=
  f.steps[p]?.any (·.concerns value)

def complaintAt? (p : Nat) : Option String :=
  f.steps[p]?.bind (·.complaint? ctx value parent)

def answersAt (p : Nat) : Bool :=
  f.steps[p]?.all (·.answers ctx value parent)

def notesAt (p : Nat) : List String :=
  (f.steps[p]?.map (·.notes ctx value parent)).getD []

/-- Whether the null is out of place or one of the steps asked before a position finds the value invalid. -/
def failedBefore (asked : List Nat) (p : Nat) : Bool :=
  f.isMissing value || asked.any fun q => q < p && (f.complaintAt? ctx value parent q).isSome

/-- The least checkpoint before a step that has a failure before it, or else the end of the chain. -/
def cutoff (asked : List Nat) : Nat :=
  ((List.range f.steps.length).find? fun p => f.stopsAt p && f.failedBefore ctx value parent asked p).getD
    f.steps.length

/-- What it takes for positions to be those of the steps that are asked. They are in order, and they are those of the
steps below the cutoff that concern the value, up to the first that comes to no verdict. -/
structure Interview (asked : List Nat) : Prop where
  ascending : asked.Pairwise (· < ·)
  mem_iff : ∀ p, p ∈ asked ↔ p < f.cutoff ctx value parent asked ∧ f.concernsAt value p = true ∧
    ∀ q ∈ asked, q < p → f.answersAt ctx value parent q = true

/-- Whether the step at a position is asked: it concerns the value, the chain has not halted, and no step that was asked
before has come to no verdict. -/
def isAsked (p : Nat) : Bool :=
  f.concernsAt value p && (List.range (p + 1)).all (fun q => !f.haltsAt ctx value parent q) &&
    (List.range p).all fun q => !f.concernsAt value q || f.answersAt ctx value parent q

/-- The positions of the steps that are asked. -/
def questions : List Nat :=
  (List.range f.steps.length).filter (f.isAsked ctx value parent)

variable {f ctx value parent path}

theorem lt_of_concernsAt {p : Nat} (h : f.concernsAt value p = true) : p < f.steps.length := by
  by_contra hp
  rw [concernsAt, List.getElem?_eq_none (Nat.le_of_not_lt hp)] at h
  cases h

theorem isAsked_iff {p : Nat} : f.isAsked ctx value parent p = true ↔
    f.concernsAt value p = true ∧ (∀ q ≤ p, f.haltsAt ctx value parent q = false) ∧
      ∀ q < p, f.concernsAt value q = true → f.answersAt ctx value parent q = true := by
  simp only [isAsked, Bool.and_eq_true, List.all_eq_true, List.mem_range, Nat.lt_succ_iff, Bool.not_eq_true',
    Bool.or_eq_true, and_assoc, ← Bool.not_eq_true]
  exact and_congr_right fun _ => and_congr_right fun _ => forall₂_congr fun _ _ => imp_iff_not_or.symm

theorem mem_questions {p : Nat} : p ∈ f.questions ctx value parent ↔ f.isAsked ctx value parent p = true := by
  rw [questions, List.mem_filter, List.mem_range]
  exact and_iff_right_of_imp fun h => lt_of_concernsAt (isAsked_iff.1 h).1

theorem lt_cutoff_iff {asked : List Nat} {p : Nat} : p < f.cutoff ctx value parent asked ↔
    p < f.steps.length ∧ ∀ q ≤ p, (f.stopsAt q && f.failedBefore ctx value parent asked q) = false := by
  rw [cutoff]
  cases hfind : (List.range f.steps.length).find?
      fun q => f.stopsAt q && f.failedBefore ctx value parent asked q with
  | none =>
      rw [List.find?_eq_none] at hfind
      refine ⟨fun h => ⟨h, fun q hq => ?_⟩, And.left⟩
      exact eq_false_of_ne_true (hfind q (List.mem_range.2 (Nat.lt_of_le_of_lt hq h)))
  | some c =>
      obtain ⟨hc, hlt, hleast⟩ := List.find?_range_eq_some.1 hfind
      rw [Option.getD_some]
      refine ⟨fun h => ⟨Nat.lt_trans h (List.mem_range.1 hlt), fun q hq => ?_⟩, fun h => ?_⟩
      · simpa only [Bool.not_eq_true'] using hleast q (Nat.lt_of_le_of_lt hq h)
      · by_contra hcp
        rw [h.2 c (Nat.le_of_not_lt hcp)] at hc
        cases hc

theorem failsBefore_iff {p : Nat} : f.failsBefore ctx value parent p = true ↔
    f.isMissing value = true ∨
      ∃ q < p, f.concernsAt value q = true ∧ (f.complaintAt? ctx value parent q).isSome = true := by
  rw [failsBefore, Bool.or_eq_true, List.any_eq_true]
  refine or_congr_right ⟨?_, ?_⟩
  · rintro ⟨s, hs, hfails⟩
    obtain ⟨q, hq, rfl⟩ := List.mem_take_iff_getElem.1 hs
    have hlt := Nat.lt_min.1 hq
    rw [Bool.and_eq_true] at hfails
    refine ⟨q, hlt.1, ?_, ?_⟩
    · simpa [concernsAt, List.getElem?_eq_getElem hlt.2] using hfails.1
    · simpa [complaintAt?, List.getElem?_eq_getElem hlt.2] using hfails.2
  · rintro ⟨q, hq, hconcerns, hcomplaint⟩
    have hlt := lt_of_concernsAt hconcerns
    refine ⟨f.steps[q], List.mem_take_iff_getElem.2 ⟨q, Nat.lt_min.2 ⟨hq, hlt⟩, rfl⟩, ?_⟩
    rw [concernsAt, List.getElem?_eq_getElem hlt] at hconcerns
    rw [complaintAt?, List.getElem?_eq_getElem hlt] at hcomplaint
    exact Bool.and_eq_true_iff.2 ⟨hconcerns, hcomplaint⟩

theorem failedBefore_iff {asked : List Nat} {p : Nat} : f.failedBefore ctx value parent asked p = true ↔
    f.isMissing value = true ∨ ∃ q ∈ asked, q < p ∧ (f.complaintAt? ctx value parent q).isSome = true := by
  simp only [failedBefore, Bool.or_eq_true, List.any_eq_true, Bool.and_eq_true, decide_eq_true_eq]

/-- What was asked before a position are all steps before it that concern the value, as long as the chain came so far
and each of these came to a verdict. -/
theorem mem_questions_of_lt_cutoff {p : Nat}
    (hp : p < f.cutoff ctx value parent (f.questions ctx value parent))
    (hanswers : ∀ q ∈ f.questions ctx value parent, q < p → f.answersAt ctx value parent q = true) (q : Nat)
    (hq : q ≤ p) :
    f.haltsAt ctx value parent q = false ∧
      ∀ r < q, f.concernsAt value r = true → r ∈ f.questions ctx value parent := by
  induction q using Nat.strongRecOn with
  | ind q ih =>
      have hasked (r : Nat) (hr : r < q) (hconcerns : f.concernsAt value r = true) :
          r ∈ f.questions ctx value parent := by
        refine mem_questions.2 (isAsked_iff.2 ⟨hconcerns, fun t ht => ?_, fun t ht hconcerns => ?_⟩)
        · exact (ih t (by omega) (by omega)).1
        · exact hanswers t ((ih r hr (by omega)).2 t ht hconcerns) (by omega)
      refine ⟨?_, hasked⟩
      rw [haltsAt, Bool.and_comm]
      refine eq_false_of_ne_true fun hhalts => ?_
      obtain ⟨hstops, hfails⟩ := Bool.and_eq_true_iff.1 hhalts
      have hfailed : f.failedBefore ctx value parent (f.questions ctx value parent) q = true := by
        refine failedBefore_iff.2 ((failsBefore_iff.1 hfails).imp_right ?_)
        rintro ⟨r, hr, hconcerns, hcomplaint⟩
        exact ⟨r, hasked r hr hconcerns, hr, hcomplaint⟩
      have hgoes := (lt_cutoff_iff.1 hp).2 q hq
      rw [hstops, hfailed] at hgoes
      cases hgoes

theorem interview_questions : f.Interview ctx value parent (f.questions ctx value parent) where
  ascending := List.pairwise_lt_range.filter _
  mem_iff p := by
    constructor
    · intro hp
      obtain ⟨hconcerns, hgoes, hanswers⟩ := isAsked_iff.1 (mem_questions.1 hp)
      refine ⟨lt_cutoff_iff.2 ⟨lt_of_concernsAt hconcerns, fun q hq => ?_⟩, hconcerns, fun q hq hlt => ?_⟩
      · refine eq_false_of_ne_true fun hstops => ?_
        obtain ⟨hstops, hfailed⟩ := Bool.and_eq_true_iff.1 hstops
        have hfails : f.failsBefore ctx value parent q = true := by
          refine failsBefore_iff.2 ((failedBefore_iff.1 hfailed).imp_right ?_)
          rintro ⟨r, hr, hlt, hcomplaint⟩
          exact ⟨r, hlt, (isAsked_iff.1 (mem_questions.1 hr)).1, hcomplaint⟩
        have hgoes := hgoes q hq
        rw [haltsAt, hfails, hstops] at hgoes
        cases hgoes
      · exact hanswers q hlt (isAsked_iff.1 (mem_questions.1 hq)).1
    · rintro ⟨hcutoff, hconcerns, hanswers⟩
      have hbefore := mem_questions_of_lt_cutoff hcutoff hanswers
      refine mem_questions.2 (isAsked_iff.2 ⟨hconcerns, fun q hq => (hbefore q hq).1, fun q hq hconcerns => ?_⟩)
      exact hanswers q ((hbefore p (Nat.le_refl p)).2 q hq hconcerns) hq

/-! ### The chain asks them -/

/-- Asks steps one after the other, up to the first that comes to no verdict. -/
def ask (ctx : Context) (value parent : Json) (path : Path) :
    List PlannedStep → Activity (Except Abort (List String))
  | [] => .done (.ok [])
  | s :: rest => do
      match ← s.check value parent ctx with
      | .error failure => pure (.error (.predicateFailed s.predicateName path.text failure))
      | .ok .valid => ask ctx value parent path rest
      | .ok (.invalid detail) => do
          let message ← s.message detail ctx
          let messages ← ask ctx value parent path rest
          pure (messages.map (message :: ·))

/-- An activity behind the message about a null that should not be there. -/
def announcing (f : PlannedField) (ctx : Context) (value : Json) (rest : Activity (Except Abort (List String))) :
    Activity (Except Abort (List String)) :=
  if f.isMissing value then do
    let message ← ctx.message "not_null" []
    let messages ← rest
    pure (messages.map (message :: ·))
  else rest

/-- The steps at the positions that are asked from one on. -/
def askedFrom (f : PlannedField) (ctx : Context) (value parent : Json) (p n : Nat) : List PlannedStep :=
  ((List.range' p n).filter (f.isAsked ctx value parent)).filterMap (f.steps[·]?)

theorem askedFrom_succ {before rest : List PlannedStep} {s : PlannedStep} (hsteps : f.steps = before ++ s :: rest)
    (n : Nat) : f.askedFrom ctx value parent before.length (n + 1) =
      if f.isAsked ctx value parent before.length then s :: f.askedFrom ctx value parent (before.length + 1) n
      else f.askedFrom ctx value parent (before.length + 1) n := by
  have hs : f.steps[before.length]? = some s := by simp [hsteps]
  rw [askedFrom, List.range'_succ, List.filter_cons]
  split
  · rw [List.filterMap_cons, hs]
    rfl
  · rfl

theorem askedFrom_eq_nil {p : Nat} (h : f.haltsAt ctx value parent p = true) (n : Nat) :
    f.askedFrom ctx value parent p n = [] := by
  have hnone : (List.range' p n).filter (f.isAsked ctx value parent) = [] := by
    refine List.filter_eq_nil_iff.2 fun q hq hasked => ?_
    have hgoes := (isAsked_iff.1 hasked).2.1 p (List.mem_range'_1.1 hq).1
    rw [h] at hgoes
    cases hgoes
  rw [askedFrom, hnone, List.filterMap_nil]

/-- The walk asks a step that concerns the value, and goes on behind it if the step comes to a verdict. -/
theorem chainFrom_cons_eq_ask {p : Nat} {failed : Bool} {s : PlannedStep} {rest steps : List PlannedStep}
    (hgoes : (failed && f.stopsAt p) = false) (hconcerns : s.concerns value = true)
    (hrest : s.answers ctx value parent = true →
      f.chainFrom ctx value parent path (p + 1) (failed || (s.complaint? ctx value parent).isSome) rest =
        ask ctx value parent path steps) :
    f.chainFrom ctx value parent path p failed (s :: rest) = ask ctx value parent path (s :: steps) := by
  rw [chainFrom, hgoes, if_neg Bool.false_ne_true, if_pos hconcerns, ask]
  refine Activity.andThen_congr ?_
  cases hverdict : (s.check value parent ctx).answer with
  | error failure => rfl
  | ok verdict =>
      have hrest := hrest (by rw [PlannedStep.answers, PlannedStep.verdict, hverdict]; rfl)
      cases verdict with
      | valid =>
          have hnone : s.complaint? ctx value parent = none := by
            simp [PlannedStep.complaint?, PlannedStep.verdict, hverdict]
          rw [hnone, Option.isSome_none, Bool.or_false] at hrest
          exact hrest
      | invalid detail =>
          have hsome : s.complaint? ctx value parent = some (s.message detail ctx).answer := by
            simp [PlannedStep.complaint?, PlannedStep.verdict, hverdict]
          rw [hsome, Option.isSome_some, Bool.or_true] at hrest
          simp only [hrest]

/-- A walk has come to a position if it halts nowhere before it and each step before it that concerns the value has come
to a verdict. -/
structure ComesTo (f : PlannedField) (ctx : Context) (value parent : Json) (p : Nat) : Prop where
  goes : ∀ q < p, f.haltsAt ctx value parent q = false
  answers : ∀ q < p, f.concernsAt value q = true → f.answersAt ctx value parent q = true

theorem ComesTo.succ {p : Nat} (h : f.ComesTo ctx value parent p) (hgoes : f.haltsAt ctx value parent p = false)
    (hanswers : f.concernsAt value p = true → f.answersAt ctx value parent p = true) :
    f.ComesTo ctx value parent (p + 1) where
  goes q hq := by
    rcases Nat.lt_succ_iff_lt_or_eq.1 hq with hq | rfl
    · exact h.goes q hq
    · exact hgoes
  answers q hq hconcerns := by
    rcases Nat.lt_succ_iff_lt_or_eq.1 hq with hq | rfl
    · exact h.answers q hq hconcerns
    · exact hanswers hconcerns

/-- At a position that the walk comes to and does not halt at, a step is asked if it concerns the value. -/
theorem ComesTo.isAsked_eq {p : Nat} (h : f.ComesTo ctx value parent p)
    (hgoes : f.haltsAt ctx value parent p = false) : f.isAsked ctx value parent p = f.concernsAt value p := by
  rw [Bool.eq_iff_iff, isAsked_iff]
  refine and_iff_left_of_imp fun _ => ⟨fun q hq => ?_, h.answers⟩
  rcases Nat.lt_or_eq_of_le hq with hq | rfl
  · exact h.goes q hq
  · exact hgoes

/-- The walk of a chain from a position that it comes to asks what is to be asked from there on. -/
theorem chainFrom_eq_ask {before rest : List PlannedStep} (hsteps : f.steps = before ++ rest)
    (hcomes : f.ComesTo ctx value parent before.length) :
    f.chainFrom ctx value parent path before.length (f.failsBefore ctx value parent before.length) rest =
      ask ctx value parent path (f.askedFrom ctx value parent before.length rest.length) := by
  induction rest generalizing before with
  | nil => rfl
  | cons s rest ih =>
      have hs : f.steps[before.length]? = some s := by simp [hsteps]
      have hconcernsAt : f.concernsAt value before.length = s.concerns value := by rw [concernsAt, hs]; rfl
      rw [List.length_cons]
      by_cases hhalts : f.haltsAt ctx value parent before.length = true
      · rw [askedFrom_eq_nil hhalts, chainFrom]
        exact if_pos hhalts
      have hgoes := eq_false_of_ne_true hhalts
      -- The rest is asked if the step comes to a verdict, or is not asked for one.
      have hrest (hverdict : s.concerns value = true → s.answers ctx value parent = true) :
          f.chainFrom ctx value parent path (before.length + 1)
              (f.failsBefore ctx value parent before.length ||
                (s.concerns value && (s.complaint? ctx value parent).isSome)) rest =
            ask ctx value parent path (f.askedFrom ctx value parent (before.length + 1) rest.length) := by
        have hnext : f.steps = (before ++ [s]) ++ rest := by rw [hsteps, List.append_assoc, List.singleton_append]
        have ih := ih hnext
        rw [List.length_append, List.length_singleton] at ih
        rw [← failsBefore_succ f ctx value parent hsteps]
        refine ih (hcomes.succ hgoes fun hconcerns => ?_)
        rw [answersAt, hs]
        exact hverdict (hconcernsAt ▸ hconcerns)
      rw [askedFrom_succ hsteps, hcomes.isAsked_eq hgoes, hconcernsAt]
      by_cases hconcerns : s.concerns value = true
      · rw [if_pos hconcerns]
        refine chainFrom_cons_eq_ask hgoes hconcerns fun hverdict => ?_
        have hrest := hrest fun _ => hverdict
        rwa [hconcerns, Bool.true_and] at hrest
      · have hrest := hrest fun h => absurd h hconcerns
        rw [eq_false_of_ne_true hconcerns, Bool.false_and, Bool.or_false] at hrest
        rw [if_neg hconcerns, chainFrom, if_neg hconcerns, hrest]
        exact if_neg hhalts

/-- **A chain asks its questions** one after the other and does nothing else. -/
theorem chain_eq_ask : f.chain ctx value parent path =
    f.announcing ctx value
      (ask ctx value parent path ((f.questions ctx value parent).filterMap (f.steps[·]?))) := by
  have hcomes : f.ComesTo ctx value parent 0 :=
    ⟨fun q hq => absurd hq q.not_lt_zero, fun q hq => absurd hq q.not_lt_zero⟩
  have hwalk := @chainFrom_eq_ask f ctx value parent path [] f.steps rfl hcomes
  have hstart : f.failsBefore ctx value parent 0 = f.isMissing value := by simp [failsBefore]
  rw [List.length_nil, hstart, askedFrom, ← List.range_eq_range'] at hwalk
  rw [chain, announcing, questions, ← hwalk]
  change (if f.isMissing value then _ else _) = _
  cases f.isMissing value <;> rfl

/-! ### What asking leaves behind -/

theorem answer_ask (steps : List PlannedStep) :
    (ask ctx value parent path steps).answer = PlannedField.answers ctx value parent path steps := by
  induction steps with
  | nil => rfl
  | cons s rest ih =>
      rw [ask, Activity.answer_andThen]
      cases hverdict : (s.check value parent ctx).answer with
      | error failure => exact (answers_cons_of_error ctx value parent path hverdict rest).symm
      | ok verdict =>
          cases verdict with
          | valid => exact ih.trans (answers_cons_of_valid ctx value parent path hverdict rest).symm
          | invalid detail =>
              rw [answers_cons_of_invalid ctx value parent path hverdict, ← ih]
              simp

/-- Steps of which only the last may come to no verdict note what each of them notes. -/
theorem notes_ask {steps : List PlannedStep}
    (h : steps.Pairwise fun s _ => s.answers ctx value parent = true) :
    (ask ctx value parent path steps).notes = steps.flatMap (·.notes ctx value parent) := by
  induction steps with
  | nil => rfl
  | cons s rest ih =>
      obtain ⟨hs, hrest⟩ := List.pairwise_cons.1 h
      have ih := ih hrest
      rw [ask, Activity.notes_andThen, List.flatMap_cons, PlannedStep.notes, PlannedStep.verdict, List.append_assoc]
      refine congrArg ((s.check value parent ctx).notes ++ ·) ?_
      cases hverdict : (s.check value parent ctx).answer with
      | error failure =>
          -- Nothing is asked behind a step without a verdict.
          have hnil : rest = [] := List.eq_nil_iff_forall_not_mem.2 fun t ht => by
            have hanswers := hs t ht
            rw [PlannedStep.answers, PlannedStep.verdict, hverdict] at hanswers
            cases hanswers
          rw [hnil]
          rfl
      | ok verdict =>
          cases verdict with
          | valid => exact ih
          | invalid detail => simp [ih]

theorem pairwise_answers_questions :
    ((f.questions ctx value parent).filterMap (f.steps[·]?)).Pairwise
      fun s _ => s.answers ctx value parent = true := by
  have hinterview : f.Interview ctx value parent (f.questions ctx value parent) := interview_questions
  have hpositions : (f.questions ctx value parent).Pairwise fun q _ => f.answersAt ctx value parent q = true :=
    hinterview.ascending.imp_of_mem fun {q p} hq hp hlt => ((hinterview.mem_iff p).1 hp).2.2 q hq hlt
  refine hpositions.filterMap _ fun q p hanswers s hs t _ => ?_
  rw [answersAt, Option.mem_def.1 hs] at hanswers
  exact hanswers

/-- The notes of the message about a null that should not be there. -/
def missingNotes (f : PlannedField) (ctx : Context) (value : Json) : List String :=
  if f.isMissing value then (ctx.message "not_null" []).notes else []

theorem notes_chain : (f.chain ctx value parent path).notes =
    f.missingNotes ctx value ++
      ((f.questions ctx value parent).filterMap (f.steps[·]?)).flatMap (·.notes ctx value parent) := by
  rw [chain_eq_ask, announcing, missingNotes, ← @notes_ask ctx value parent path _ pairwise_answers_questions]
  cases f.isMissing value <;> simp

/-! ### Steps that note when they are asked -/

/-- The field, each of its steps made to note a line of its own whenever it is asked. -/
def noting (f : PlannedField) (label : Nat → String) : PlannedField :=
  { f with steps := f.steps.mapIdx fun p s => s.noting (label p) }

variable {label : Nat → String}

theorem getElem?_noting (p : Nat) : (f.noting label).steps[p]? = f.steps[p]?.map (·.noting (label p)) :=
  List.getElem?_mapIdx

theorem concernsAt_noting (p : Nat) : (f.noting label).concernsAt value p = f.concernsAt value p := by
  rw [concernsAt, concernsAt, getElem?_noting]
  cases f.steps[p]? <;> rfl

theorem complaintAt?_noting (p : Nat) :
    (f.noting label).complaintAt? ctx value parent p = f.complaintAt? ctx value parent p := by
  rw [complaintAt?, complaintAt?, getElem?_noting]
  cases f.steps[p]? <;> rfl

theorem answersAt_noting (p : Nat) :
    (f.noting label).answersAt ctx value parent p = f.answersAt ctx value parent p := by
  rw [answersAt, answersAt, getElem?_noting]
  cases f.steps[p]? <;> rfl

theorem haltsAt_noting (p : Nat) : (f.noting label).haltsAt ctx value parent p = f.haltsAt ctx value parent p := by
  have hfails : (f.noting label).failsBefore ctx value parent p = f.failsBefore ctx value parent p := by
    rw [Bool.eq_iff_iff, failsBefore_iff, failsBefore_iff]
    simp only [concernsAt_noting, complaintAt?_noting]
    exact Iff.rfl
  rw [haltsAt, haltsAt, hfails]
  rfl

/-- Noting changes nothing about what is asked. -/
theorem questions_noting : (f.noting label).questions ctx value parent = f.questions ctx value parent := by
  have hlength : (f.noting label).steps.length = f.steps.length := List.length_mapIdx
  rw [questions, questions, hlength]
  refine List.filter_congr fun p _ => ?_
  simp only [isAsked, concernsAt_noting, haltsAt_noting, answersAt_noting]

/-- **The steps that a chain asks are its questions**, each asked once: made to note when they are asked, they tell so
in this order. -/
theorem notes_chain_noting : ((f.noting label).chain ctx value parent path).notes =
    f.missingNotes ctx value ++
      (f.questions ctx value parent).flatMap fun p => label p :: f.notesAt ctx value parent p := by
  have hsteps (ps : List Nat) (hps : ∀ p ∈ ps, f.concernsAt value p = true) :
      (ps.filterMap ((f.noting label).steps[·]?)).flatMap (·.notes ctx value parent) =
        ps.flatMap fun p => label p :: f.notesAt ctx value parent p := by
    induction ps with
    | nil => rfl
    | cons p ps ih =>
        obtain ⟨hp, hps⟩ := List.forall_mem_cons.1 hps
        have hlt := lt_of_concernsAt hp
        have hs := List.getElem?_eq_getElem hlt
        have hnoting : (f.noting label).steps[p]? = some (f.steps[p].noting (label p)) := by
          rw [getElem?_noting, hs, Option.map_some]
        rw [List.filterMap_cons, hnoting, List.flatMap_cons, List.flatMap_cons, ih hps, notesAt, hs]
        rfl
  have hmissing : (f.noting label).missingNotes ctx value = f.missingNotes ctx value := rfl
  rw [notes_chain, hmissing, questions_noting, hsteps]
  exact fun p hp => (isAsked_iff.1 (mem_questions.1 hp)).1

/-- The answer of a chain in terms of the steps that it asks. -/
theorem answer_chain_questions : (f.chain ctx value parent path).answer =
    match ((f.questions ctx value parent).filterMap (f.steps[·]?)).findSome? (·.abort? ctx value parent path) with
    | some abort => .error abort
    | none => .ok (f.missing ctx value ++
        ((f.questions ctx value parent).filterMap (f.steps[·]?)).filterMap (·.complaint? ctx value parent)) := by
  rw [chain_eq_ask, announcing, missing]
  generalize (f.questions ctx value parent).filterMap (f.steps[·]?) = steps
  have hask := @answer_ask ctx value parent path steps
  rw [PlannedField.answers] at hask
  cases f.isMissing value with
  | false => exact hask
  | true =>
      rw [if_pos rfl, if_pos rfl, Activity.answer_andThen, Activity.answer_andThen, hask]
      cases steps.findSome? (·.abort? ctx value parent path) <;> rfl

end PlannedField

end Attest

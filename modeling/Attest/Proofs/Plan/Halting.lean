import Attest.Proofs.Plan.Questions

/-!
Where chains halt. The steps that a chain asks are those below the first checkpoint with a failure before it, and so a
checkpoint matters only where something has failed: none at the end of the chain does, and one at its start only
for a null that is out of place. What checkpoints take away are messages at the end, and never all of them.
-/

namespace Attest

namespace PlannedField

variable {f : PlannedField} {ctx : Context} {value parent : Json} {path : Path}

/-! ### More checkpoints -/

/-- The field with other checkpoints. -/
def withCheckpoints (f : PlannedField) (c : Checkpoints) : PlannedField :=
  { f with checkpoints := c }

variable {c : Checkpoints}

theorem haltsAt_withCheckpoints (p : Nat) : (f.withCheckpoints c).haltsAt ctx value parent p =
    (f.failsBefore ctx value parent p && c.contains p) :=
  rfl

/-- Checkpoints that let the chain halt where it did leave it as it is. -/
theorem chain_withCheckpoints (h : ∀ p < f.steps.length,
      (f.withCheckpoints c).haltsAt ctx value parent p = f.haltsAt ctx value parent p) :
    (f.withCheckpoints c).chain ctx value parent path = f.chain ctx value parent path := by
  have hquestions : (f.withCheckpoints c).questions ctx value parent = f.questions ctx value parent := by
    refine List.filter_congr fun p hp => ?_
    rw [Bool.eq_iff_iff, isAsked_iff, isAsked_iff]
    refine and_congr_right fun _ => and_congr_left fun _ => forall₂_congr fun q hq => ?_
    rw [h q (Nat.lt_of_le_of_lt hq (List.mem_range.1 hp))]
  rw [chain_eq_ask, chain_eq_ask, hquestions]
  rfl

/-- A checkpoint behind the last step changes nothing. -/
theorem chain_insert_of_le {p : Nat} (hp : f.steps.length ≤ p) :
    (f.withCheckpoints (f.checkpoints.insert p)).chain ctx value parent path = f.chain ctx value parent path := by
  refine chain_withCheckpoints fun q hq => ?_
  have hcontains : (f.checkpoints.insert p).contains q = f.stopsAt q := by
    rw [Bool.eq_iff_iff, Checkpoints.contains_iff, Checkpoints.mem_insert, stopsAt, Checkpoints.contains_iff]
    exact or_iff_right (Nat.ne_of_lt (Nat.lt_of_lt_of_le hq hp))
  rw [haltsAt_withCheckpoints, hcontains]
  rfl

/-- A checkpoint at the start changes nothing unless a null is out of place. -/
theorem chain_insert_zero (h : f.isMissing value = false) :
    (f.withCheckpoints (f.checkpoints.insert 0)).chain ctx value parent path = f.chain ctx value parent path := by
  refine chain_withCheckpoints fun q _ => ?_
  rw [haltsAt_withCheckpoints, haltsAt]
  cases q with
  | zero =>
      have hstart : f.failsBefore ctx value parent 0 = false := by simp [failsBefore, h]
      rw [hstart]
      rfl
  | succ q =>
      have hcontains : (f.checkpoints.insert 0).contains (q + 1) = f.stopsAt (q + 1) := by
        rw [Bool.eq_iff_iff, Checkpoints.contains_iff, Checkpoints.mem_insert, stopsAt, Checkpoints.contains_iff]
        exact or_iff_right (Nat.succ_ne_zero q)
      rw [hcontains]

theorem takeWhile_prefix_of_imp {α : Type} {p q : α → Bool} (h : ∀ a, p a = true → q a = true) (as : List α) :
    as.takeWhile p <+: as.takeWhile q := by
  induction as with
  | nil => exact List.prefix_rfl
  | cons a as ih =>
      rw [List.takeWhile_cons]
      split
      next hp =>
        rw [List.takeWhile_cons, if_pos (h a hp)]
        exact (List.cons_prefix_cons).2 ⟨rfl, ih⟩
      next => exact List.nil_prefix

theorem asked_withCheckpoints_prefix (h : ∀ p ∈ f.checkpoints, p ∈ c) :
    (f.withCheckpoints c).asked ctx value parent <+: f.asked ctx value parent := by
  refine ((takeWhile_prefix_of_imp (fun (_, p) hgoes => ?_) _).map _).filter _
  change (!(f.withCheckpoints c).haltsAt ctx value parent p) = true at hgoes
  change (!f.haltsAt ctx value parent p) = true
  rw [haltsAt_withCheckpoints, Bool.not_eq_true', Bool.and_eq_false_iff] at hgoes
  rw [Bool.not_eq_true', haltsAt, Bool.and_eq_false_iff]
  refine hgoes.imp_right fun hstops => ?_
  rw [stopsAt, ← Bool.not_eq_true, Checkpoints.contains_iff]
  rw [← Bool.not_eq_true, Checkpoints.contains_iff] at hstops
  exact fun hp => hstops (h p hp)

/-- **More checkpoints cut messages off at the end**, and never all of them. -/
theorem answer_chain_withCheckpoints (h : ∀ p ∈ f.checkpoints, p ∈ c) {messages : List String}
    (hanswer : (f.chain ctx value parent path).answer = .ok messages) :
    ∃ kept, ((f.withCheckpoints c).chain ctx value parent path).answer = .ok kept ∧ kept <+: messages ∧
      (kept = [] → messages = []) := by
  have hasked : (f.withCheckpoints c).asked ctx value parent <+: f.asked ctx value parent :=
    asked_withCheckpoints_prefix h
  rw [answer_chain] at hanswer
  cases habort : f.abort? ctx value parent path with
  | some abort => simp [habort] at hanswer
  | none =>
      have hnone : (f.withCheckpoints c).abort? ctx value parent path = none := by
        rw [abort?, List.findSome?_eq_none_iff] at habort ⊢
        exact fun s hs => habort s (hasked.subset hs)
      obtain rfl : f.complaints ctx value parent = messages := by simpa [habort] using hanswer
      refine ⟨(f.withCheckpoints c).complaints ctx value parent, by rw [answer_chain, hnone], ?_, fun hnil => ?_⟩
      · exact (List.prefix_append_right_inj _).2 (hasked.filterMap _)
      · -- What is demanded of the value does not depend on checkpoints.
        have hholds := (complaints_eq_nil_iff hnone).1 hnil
        exact (complaints_eq_nil_iff habort).2 ⟨hholds.present, hholds.valid⟩

/-- A field of a plan that came of a compilation. -/
def IsCompiled (f : PlannedField) : Prop :=
  ∃ (c : Compiler) (schemas : List Schema) (store : PatternStore) (plans : PlanSet) (plan : Plan),
    store.Grown ∧ ((c.compile schemas).run store).1 = .ok plans ∧ plan ∈ plans.plans ∧ f ∈ plan.fields

/-- Compilation puts a predicate only where the rule names one. -/
theorem IsCompiled.exists_custom (h : f.IsCompiled) {s : PlannedStep} (hs : s ∈ f.steps) {predicate : Predicate}
    (hmatcher : s.matcher = .custom predicate) : ∃ name, s.rule = .custom name := by
  obtain ⟨c, schemas, store, plans, plan, hstore, hcompile, hplan, hf⟩ := h
  have hmatches := Compiler.forall₂_of_compile hstore.sound hcompile
  obtain ⟨schema, -, hschema⟩ := exists_left_of_forall₂ hmatches hplan
  obtain ⟨field, -, hfield⟩ := exists_left_of_forall₂ hschema.fields hf
  obtain ⟨step, -, hstep⟩ := exists_left_of_forall₂ hfield.steps hs
  have hmatches := hstep.matcher
  rw [hmatcher, ← hstep.rule_eq] at hmatches
  generalize s.rule = rule at hmatches
  cases hmatches with
  | custom _ => exact ⟨_, rfl⟩

/-- No predicate is asked about a null. -/
theorem IsCompiled.matcher_ne_custom (h : f.IsCompiled) (hnull : value.isNull = true) {p : Nat}
    (hp : p ∈ f.questions ctx value parent) (predicate : Predicate) :
    f.steps[p]?.map (·.matcher) ≠ some (.custom predicate) := by
  intro hmatcher
  obtain ⟨s, hs, hmatcher⟩ := Option.map_eq_some_iff.1 hmatcher
  obtain ⟨name, hrule⟩ := h.exists_custom (List.mem_of_getElem? hs) hmatcher
  have hconcerns := (isAsked_iff.1 (mem_questions.1 hp)).1
  rw [concernsAt, hs, Option.any_some, PlannedStep.concerns, hnull, hrule] at hconcerns
  cases hconcerns

/-- **What a chain asks and what it leaves behind.** Its questions are the steps below the first checkpoint with a failure
before it that concern the value, up to the first that comes to no verdict. Exactly these are asked, in order and each
once, and no predicate about a null; the call aborts if one of them comes to no verdict, and otherwise each that finds
the value invalid leaves its message, behind that about a null that is out of place. More checkpoints cut messages off
at the end and never all of them, a checkpoint at the end of the chain does nothing, and neither does one at
its start unless a null is out of place. -/
theorem chain_halts_at_checkpoint (f : PlannedField) (ctx : Context) (value parent : Json) (path : Path) :
    f.Interview ctx value parent (f.questions ctx value parent) ∧
    (∀ label, ((f.noting label).chain ctx value parent path).notes = f.missingNotes ctx value ++
      (f.questions ctx value parent).flatMap fun p => label p :: f.notesAt ctx value parent p) ∧
    (f.IsCompiled → value.isNull = true → ∀ p ∈ f.questions ctx value parent, ∀ predicate,
      f.steps[p]?.map (·.matcher) ≠ some (.custom predicate)) ∧
    (f.chain ctx value parent path).answer =
      (match ((f.questions ctx value parent).filterMap (f.steps[·]?)).findSome? (·.abort? ctx value parent path) with
      | some abort => .error abort
      | none => .ok (f.missing ctx value ++
          ((f.questions ctx value parent).filterMap (f.steps[·]?)).filterMap (·.complaint? ctx value parent))) ∧
    (∀ c : Checkpoints, (∀ p ∈ f.checkpoints, p ∈ c) → ∀ messages,
      (f.chain ctx value parent path).answer = .ok messages →
        ∃ kept, ((f.withCheckpoints c).chain ctx value parent path).answer = .ok kept ∧ kept <+: messages ∧
          (kept = [] → messages = [])) ∧
    (f.withCheckpoints (f.checkpoints.insert f.steps.length)).chain ctx value parent path =
      f.chain ctx value parent path ∧
    (f.isMissing value = false →
      (f.withCheckpoints (f.checkpoints.insert 0)).chain ctx value parent path = f.chain ctx value parent path) :=
  ⟨interview_questions, fun _ => notes_chain_noting, fun h hnull _ hp => h.matcher_ne_custom hnull hp,
    answer_chain_questions, fun _ hc _ => answer_chain_withCheckpoints hc, chain_insert_of_le (Nat.le_refl _),
    chain_insert_zero⟩

/-- A predicate that finds every value taken. -/
def taken : Predicate := fun _ _ _ =>
  .note "looked up" (.pause (.done (.ok (.invalid (some "is taken")))))

/-- A code of two or three characters that is not taken; what is not there or too short is not looked up. -/
def code : PlannedField :=
  ⟨"code", true, [.ofStep ⟨.required, none⟩ .builtIn, .ofStep ⟨.minLength 2, none⟩ .builtIn,
    .ofStep ⟨.custom "taken", none⟩ (.custom taken), .ofStep ⟨.maxLength 2, none⟩ .builtIn], .ofList [2], none⟩

theorem isCompiled_code : code.IsCompiled :=
  ⟨⟨Registry.empty.register "taken" taken, 10⟩,
    [⟨"Order", [⟨"code", true, [⟨.required, none⟩, ⟨.minLength 2, none⟩, ⟨.custom "taken", none⟩, ⟨.maxLength 2, none⟩],
      .ofList [2], none⟩]⟩], .empty, ⟨[⟨"Order", [code], []⟩]⟩, ⟨"Order", [code], []⟩, .empty, rfl, List.mem_singleton_self _,
    List.mem_singleton_self _⟩

/-- A context that tells messages by their keys. -/
def keysOnly : Context :=
  (Context.standard .unbounded (.fixed ⟨0, 0⟩)).withResolver fun key _ _ => .done key

theorem chain_halts_at_checkpoint_code :
    code.IsCompiled ∧ Json.null.isNull = true ∧ code.questions keysOnly .null .null = [0] ∧
      (∀ p ∈ code.questions keysOnly .null .null, ∀ predicate,
        code.steps[p]?.map (·.matcher) ≠ some (.custom predicate)) ∧
      ((code.noting toString).chain keysOnly (.string "abc") .null .root).notes = ["0", "1", "2", "looked up", "3"] ∧
      (code.chain keysOnly (.string "abc") .null .root).answer = .ok ["is taken", "max_length"] ∧
      (∃ kept, ((code.withCheckpoints (.ofList [2, 3])).chain keysOnly (.string "abc") .null .root).answer = .ok kept ∧
        kept <+: ["is taken", "max_length"] ∧ (kept = [] → ["is taken", "max_length"] = [])) ∧
      code.isMissing (.string "abc") = false ∧
      (code.withCheckpoints (code.checkpoints.insert 0)).chain keysOnly (.string "abc") .null .root =
        code.chain keysOnly (.string "abc") .null .root := by
  have hanswer : (code.chain keysOnly (.string "abc") .null .root).answer = .ok ["is taken", "max_length"] := by
    decide +kernel
  have hnull := chain_halts_at_checkpoint code keysOnly .null .null .root
  have htext := chain_halts_at_checkpoint code keysOnly (.string "abc") .null .root
  exact ⟨isCompiled_code, rfl, by decide +kernel, hnull.2.2.1 isCompiled_code rfl, by decide +kernel, hanswer,
    htext.2.2.2.2.1 (.ofList [2, 3]) (fun p hp => List.mem_cons.2 (.inl (List.mem_singleton.1 hp))) _ hanswer, rfl, htext.2.2.2.2.2.2 rfl⟩

end PlannedField

end Attest

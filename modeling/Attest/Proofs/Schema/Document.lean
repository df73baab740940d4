import Attest.Proofs.Rule.Document
import Attest.Proofs.Schema.Equality
import Attest.Schema.Document

/-!
Schemas that are read back from their documents.

Two kinds of schemas are there to be written: those that are declared piece by piece and those that were read. In
both all counts and values are in the range of their types, and this is kept by every declaration. So what is written
of a schema spells its draft, and the decoder takes the same schema off it, with its fields in order, the messages
that are there and no others, and every default where it was left out. What it needs besides is that the bounds are
numbers, that no value is nested so deep that it cannot stand inside a schema, and that the binary numbers among them
are recovered from their texts.
-/

namespace Attest

open Draft (Spells SpellsMember)

/-! ### Checkpoints -/

namespace Checkpoints

theorem place_of_forall_lt {p : Nat} {qs : List Nat} (h : ∀ q ∈ qs, q < p) : place p qs = qs ++ [p] := by
  induction qs with
  | nil => rfl
  | cons q rest ih =>
      obtain ⟨hq, hrest⟩ := List.forall_mem_cons.1 h
      rw [place, if_neg (Nat.lt_asymm hq), if_neg (Nat.ne_of_gt hq), ih hrest, List.cons_append]

theorem ext_positions {c d : Checkpoints} (h : c.positions = d.positions) : c = d := by
  cases c
  cases d
  cases h
  rfl

/-- Checkpoints are what their positions are put together to. -/
theorem ofList_positions (c : Checkpoints) : ofList c.positions = c := by
  -- The positions stand in order, so each is placed behind those that are there.
  have hfold (c : Checkpoints) (after : List Nat) (h : (c.positions ++ after).Pairwise (· < ·)) :
      (after.foldl insert c).positions = c.positions ++ after := by
    induction after generalizing c with
    | nil => exact (List.append_nil _).symm
    | cons p after ih =>
        have hplace : (c.insert p).positions = c.positions ++ [p] := place_of_forall_lt fun q hq =>
          (List.pairwise_append.1 h).2.2 q hq p List.mem_cons_self
        rw [List.foldl_cons, ih, hplace, List.append_assoc, List.singleton_append]
        rw [hplace, List.append_assoc]
        exact h
  exact ext_positions (hfold empty c.positions c.sorted)

theorem mem_ofList {p : Nat} {ps : List Nat} (h : p ∈ ofList ps) : p ∈ ps := by
  have hfold (c : Checkpoints) (ps : List Nat) (h : p ∈ ps.foldl insert c) : p ∈ c ∨ p ∈ ps := by
    induction ps generalizing c with
    | nil => exact .inl h
    | cons q rest ih =>
        rcases ih (c.insert q) h with hinsert | hrest
        · rcases (mem_insert c q p).1 hinsert with rfl | hc
          · exact .inr List.mem_cons_self
          · exact .inl hc
        · exact .inr (List.mem_cons_of_mem _ hrest)
  rcases hfold empty ps h with hempty | hps
  · cases hempty
  · exact hps

end Checkpoints

/-! ### Drafts -/

namespace Nesting

def draft (n : Nesting) : Draft :=
  .object [("schema", .string n.schema), ("each_element", .bool n.each)] none

theorem spells_render (n : Nesting) : Spells n.render n.draft :=
  Draft.spells_fields (.cons ⟨rfl, Draft.spells_quote n.schema⟩ (.cons ⟨rfl, Draft.spells_bool n.each⟩ .nil))

theorem decoder_draft (n : Nesting) (depth : Nat) : decoder (depth + 1) n.draft = .ok n :=
  rfl

end Nesting

namespace Field

/-- All rules of a field and all its checkpoints are in the range of their types. -/
structure InRange (f : Field) : Prop where
  rules : ∀ s ∈ f.steps, s.rule.InRange
  checkpoints : ∀ p ∈ f.checkpoints, p < Nat.pow 2 64

def draftMembers (f : Field) : List (String × Draft) :=
  [("name", .string f.name), ("nullable", .bool f.nullable), ("steps", .array (f.steps.map Step.draft) none)] ++
    (if f.checkpoints.isEmpty then [] else
      [("checkpoints", .array (f.checkpoints.positions.map Rule.countDraft) none)]) ++
    (f.nested.map fun n => ("nested", n.draft)).toList

def draft (f : Field) : Draft :=
  .object f.draftMembers none

theorem spells_render {f : Field} (h : f.InRange) (hreals : ∀ s ∈ f.steps, ∀ x ∈ s.rule.reals, x.Recovered) :
    Spells f.render f.draft := by
  have hsteps := Draft.spells_map fun s hs => Step.spells_render (h.rules s hs) (hreals s hs)
  have hcheckpoints : Spells (Json.renderList (f.checkpoints.positions.map Rule.countText))
      (.array (f.checkpoints.positions.map Rule.countDraft) none) :=
    Draft.spells_map fun p hp => Rule.spells_countText (h.checkpoints p hp)
  refine Draft.spells_fields (List.rel_append (List.rel_append ?_ ?_) ?_)
  · exact .cons ⟨rfl, Draft.spells_quote f.name⟩ (.cons ⟨rfl, Draft.spells_bool f.nullable⟩
      (.cons ⟨rfl, hsteps⟩ .nil))
  · split
    · exact .nil
    · exact .cons ⟨rfl, hcheckpoints⟩ .nil
  · cases f.nested with
    | none => exact .nil
    | some n => exact .cons ⟨rfl, n.spells_render⟩ .nil

/-- A field is decoded of its draft if its values leave room for the field, its steps and their parameters. -/
theorem decoder_draft {f : Field} (h : f.InRange) (hbounds : ∀ s ∈ f.steps, ∀ x ∈ s.rule.bounds, ∃ y, x = .finite y)
    {depth : Nat} (hdepth : depth < Decoder.nesting)
    (hvalues : ∀ s ∈ f.steps, ∀ v ∈ s.rule.values, v.nesting ≤ depth) :
    decoder (depth + 4) f.draft = .ok f := by
  have hsteps : Decoder.list Step.decoder (depth + 3) (.array (f.steps.map Step.draft) none) = .ok f.steps :=
    Decoder.list_map fun s hs => Step.decoder_draft (h.rules s hs) (hbounds s hs) hdepth (hvalues s hs)
  have hcheckpoints : Decoder.list Rule.count (depth + 3)
      (.array (f.checkpoints.positions.map Rule.countDraft) none) = .ok f.checkpoints.positions :=
    Decoder.list_map fun p hp => Rule.count_countDraft (h.checkpoints p hp) _
  have hnested (n : Nesting) : Decoder.optional Nesting.decoder (depth + 3) n.draft = .ok (some n) := rfl
  have hsome := f.checkpoints.ofList_positions
  have hnone (hempty : f.checkpoints.isEmpty = true) : Checkpoints.ofList [] = f.checkpoints := by
    rw [← hsome, List.isEmpty_iff.1 hempty]
  rw [draft, decoder, draftMembers]
  obtain ⟨name, nullable, steps, checkpoints, nested⟩ := f
  dsimp only at hsteps hcheckpoints hsome hnone ⊢
  -- Checkpoints and nested values are left out if there are none.
  cases hempty : checkpoints.isEmpty <;> cases nested <;>
    simp [Decoder.record, List.lookup_cons, hsteps, hcheckpoints, hsome, hnone, hempty, hnested]

theorem yields_decoder : Decoder.Yields decoder InRange := by
  intro depth d f hd h
  obtain ⟨p, hp, h⟩ := Fault.bind_eq_ok_iff.1 h
  obtain ⟨name, -, h⟩ := Fault.bind_eq_ok_iff.1 h
  obtain rfl := Except.ok.inj h
  have hprogress : (∀ steps ∈ p.steps, ∀ s ∈ steps, s.rule.InRange) ∧
      ∀ positions ∈ p.checkpoints, ∀ q ∈ positions, q < Nat.pow 2 64 := by
    refine Decoder.yields_record (I := fun p : Progress => (∀ steps ∈ p.steps, ∀ s ∈ steps, s.rule.InRange) ∧
      ∀ positions ∈ p.checkpoints, ∀ q ∈ positions, q < Nat.pow 2 64) (by simp) ?_ depth d p hd hp
    simp only [List.forall_mem_cons]
    refine ⟨?_, ?_, ?_, ?_, ?_, by simp⟩
    -- A field of the draft fills its own place and leaves the others as they are.
    all_goals
      intro p depth d p' hd hp hp'
      obtain ⟨new, hnew, heq⟩ := Fault.bind_eq_ok_iff.1 hp'
      obtain rfl := Except.ok.inj heq
    · exact hp
    · exact hp
    · exact ⟨Step.yields_decoder.list.once hd hnew, hp.2⟩
    · exact ⟨hp.1, (Decoder.yields_natural 64).list.once hd hnew⟩
    · exact hp
  refine ⟨?_, ?_⟩
  · cases hsteps : p.steps with
    | none => simp
    | some steps => exact hprogress.1 steps hsteps
  · intro q hq
    cases hcheckpoints : p.checkpoints with
    | none =>
        rw [hcheckpoints] at hq
        cases hq
    | some positions =>
      rw [hcheckpoints] at hq
      exact hprogress.2 positions hcheckpoints q (Checkpoints.mem_ofList hq)

end Field

namespace Schema

def draft (s : Schema) : Draft :=
  .object [("name", .string s.name), ("fields", .array (s.fields.map Field.draft) none)] none

/-- All rules of a schema in the order in which it asks them. -/
def rules (s : Schema) : List Rule :=
  s.fields.flatMap fun f => f.steps.map (·.rule)

theorem mem_rules {s : Schema} {f : Field} {step : Step} (hf : f ∈ s.fields) (hstep : step ∈ f.steps) :
    step.rule ∈ s.rules :=
  List.mem_flatMap.2 ⟨f, hf, List.mem_map_of_mem hstep⟩

theorem spells_render {s : Schema} (h : ∀ f ∈ s.fields, f.InRange)
    (hreals : ∀ r ∈ s.rules, ∀ x ∈ r.reals, x.Recovered) : Spells s.render s.draft := by
  have hfields := Draft.spells_map fun f hf =>
    Field.spells_render (h f hf) fun step hstep => hreals step.rule (mem_rules hf hstep)
  exact Draft.spells_fields (.cons ⟨rfl, Draft.spells_quote s.name⟩ (.cons ⟨rfl, hfields⟩ .nil))

theorem decoder_draft {s : Schema} (h : ∀ f ∈ s.fields, f.InRange)
    (hbounds : ∀ r ∈ s.rules, ∀ x ∈ r.bounds, ∃ y, x = .finite y) {depth : Nat}
    (hdepth : depth < Decoder.nesting) (hvalues : ∀ r ∈ s.rules, ∀ v ∈ r.values, v.nesting ≤ depth) :
    decoder (depth + 6) s.draft = .ok s := by
  have hfields : Decoder.list Field.decoder (depth + 5) (.array (s.fields.map Field.draft) none) = .ok s.fields :=
    Decoder.list_map fun f hf => Field.decoder_draft (h f hf)
      (fun step hstep => hbounds step.rule (mem_rules hf hstep)) hdepth
      (fun step hstep => hvalues step.rule (mem_rules hf hstep))
  rw [draft, decoder]
  simp [Decoder.record, List.lookup_cons, hfields]

theorem yields_decoder : Decoder.Yields decoder fun s => ∀ f ∈ s.fields, f.InRange := by
  intro depth d s hd h
  obtain ⟨p, hp, h⟩ := Fault.bind_eq_ok_iff.1 h
  obtain ⟨name, -, h⟩ := Fault.bind_eq_ok_iff.1 h
  obtain ⟨fields, hfields, h⟩ := Fault.bind_eq_ok_iff.1 h
  obtain rfl := Except.ok.inj h
  have hprogress : ∀ fields ∈ p.fields, ∀ f ∈ fields, f.InRange := by
    refine Decoder.yields_record (I := fun p : Progress => ∀ fields ∈ p.fields, ∀ f ∈ fields, f.InRange) (by simp) ?_
      depth d p hd hp
    simp only [List.forall_mem_cons]
    refine ⟨?_, ?_, by simp⟩
    all_goals
      intro p depth d p' hd hp hp'
      obtain ⟨new, hnew, heq⟩ := Fault.bind_eq_ok_iff.1 hp'
      obtain rfl := Except.ok.inj heq
    · exact hp
    · exact Field.yields_decoder.list.once hd hnew
  exact hprogress fields (Decoder.of_required hfields)

/-- A schema that was read has nothing beyond the range of its type. -/
theorem inRange_of_ofDocument {text : String} {s : Schema} (h : ofDocument text = .ok s) :
    ∀ f ∈ s.fields, f.InRange := by
  obtain ⟨hvalue, -⟩ := Decoder.decodeText_eq_ok_iff.1 h
  exact yields_decoder _ _ s (Draft.proper_ofText text) hvalue

end Schema

/-! ### Where schemas come from -/

/-- The fields there are: those that are declared piece by piece, with rules and checkpoints in the range of their
types, and those of schemas that were read. -/
inductive Field.Obtainable : Field → Prop
  | named (name : String) : Obtainable (.named name)
  | withStep {f : Field} {step : Step} (h : Obtainable f) (hstep : step.rule.InRange) : Obtainable (f.withStep step)
  | withRule {f : Field} {rule : Rule} (h : Obtainable f) (hrule : rule.InRange) : Obtainable (f.withRule rule)
  | withCheckpointAt {f : Field} {p : Nat} (h : Obtainable f) (hp : p < Nat.pow 2 64) :
      Obtainable (f.withCheckpointAt p)
  | withCheckpoint {f : Field} (h : Obtainable f) (hlength : f.steps.length < Nat.pow 2 64) :
      Obtainable f.withCheckpoint
  | withNullable {f : Field} (h : Obtainable f) (nullable : Bool) : Obtainable (f.withNullable nullable)
  | withNested {f : Field} (h : Obtainable f) (schema : String) : Obtainable (f.withNested schema)
  | withEach {f : Field} (h : Obtainable f) (schema : String) : Obtainable (f.withEach schema)
  | read {text : String} {s : Schema} {f : Field} (h : Schema.ofDocument text = .ok s) (hf : f ∈ s.fields) :
      Obtainable f

namespace Field

variable {f : Field}

theorem InRange.withStep (h : f.InRange) {step : Step} (hstep : step.rule.InRange) : (f.withStep step).InRange where
  rules := List.forall_mem_append.2 ⟨h.rules, List.forall_mem_singleton.2 hstep⟩
  checkpoints := h.checkpoints

theorem InRange.withCheckpointAt (h : f.InRange) {p : Nat} (hp : p < Nat.pow 2 64) :
    (f.withCheckpointAt p).InRange where
  rules := h.rules
  checkpoints := by
    intro q hq
    rcases (Checkpoints.mem_insert f.checkpoints p q).1 hq with rfl | hq
    · exact hp
    · exact h.checkpoints q hq

/-- Every declaration keeps a field in range. -/
theorem Obtainable.inRange (h : f.Obtainable) : f.InRange := by
  induction h with
  | named name => exact ⟨fun s hs => (nomatch hs), fun p hp => (nomatch hp)⟩
  | withStep _ hstep ih => exact ih.withStep hstep
  | withRule _ hrule ih => exact ih.withStep hrule
  | withCheckpointAt _ hp ih => exact ih.withCheckpointAt hp
  | withCheckpoint _ hlength ih => exact ih.withCheckpointAt hlength
  | withNullable _ _ ih | withNested _ _ ih | withEach _ _ ih => exact ⟨ih.rules, ih.checkpoints⟩
  | read h hf => exact Schema.inRange_of_ofDocument h _ hf

end Field

/-! ### Schemas read back -/

namespace Schema

/-- A schema is read back from its document, whatever its fields are and however they were declared or read, if its
bounds are numbers, its values leave room for the six containers around them, and the binary numbers in it are
recovered. -/
theorem ofDocument_document {s : Schema} (h : ∀ f ∈ s.fields, f.Obtainable)
    (hbounds : ∀ r ∈ s.rules, ∀ x ∈ r.bounds, ∃ y, x = .finite y)
    (hvalues : ∀ r ∈ s.rules, ∀ v ∈ r.values, v.nesting + 6 ≤ Decoder.nesting)
    (hreals : ∀ r ∈ s.rules, ∀ x ∈ r.reals, x.Recovered) :
    ofDocument s.document = .ok s ∧ s.same s = true := by
  have hrange : ∀ f ∈ s.fields, f.InRange := fun f hf => (h f hf).inRange
  have hdecoded : decoder Decoder.nesting s.draft = .ok s :=
    decoder_draft hrange hbounds (by decide) fun r hr v hv => Nat.le_sub_of_add_le (hvalues r hr v hv)
  refine ⟨?_, same_self fun f hf step hstep => hbounds step.rule (mem_rules hf hstep)⟩
  rw [ofDocument, document, Decoder.decodeText_of_spells (spells_render hrange hreals)]
  exact hdecoded

/-- Two and a half. -/
def twoAndHalf : Binary64 :=
  ⟨false, 5 * Nat.pow 2 50, 1023, by decide, by decide, .inl (by decide)⟩

/-- A field with a checkpoint, a bound and the key of a message of its own. -/
def price : Field :=
  (((Field.named "price").withRule .required).withCheckpoint.withStep
    ⟨.range (.finite (.zero true)) (.finite twoAndHalf), some "too_dear"⟩).withNullable false

/-- Choices of every shape. -/
def choices : List Json :=
  [.string "\n", .object [("size", .number (.real twoAndHalf))], .array [.null, .number (.int (-3))]]

/-- A field with nested values, for each of whose elements there is another schema. -/
def parts : Field :=
  ((Field.named "parts").withRule (.oneOf choices)).withEach "Part"

theorem recovered_twoAndHalf : twoAndHalf.Recovered := by
  have hread : Draft.readNumber (Number.real twoAndHalf).text = .ok (⟨false, ['2'], some ['5'], none⟩, []) := by
    decide +kernel
  have hvalue : NumberLiteral.value? ⟨false, ['2'], some ['5'], none⟩ = some (.real twoAndHalf) := by decide +kernel
  exact Draft.recovered_iff.2 ⟨_, hread, hvalue⟩

theorem recovered_zero : (Binary64.zero true).Recovered := by
  have hread : Draft.readNumber (Number.real (.zero true)).text = .ok (⟨true, ['0'], some ['0'], none⟩, []) := by
    decide +kernel
  have hvalue : NumberLiteral.value? ⟨true, ['0'], some ['0'], none⟩ = some (.real (.zero true)) := by decide +kernel
  exact Draft.recovered_iff.2 ⟨_, hread, hvalue⟩

theorem inRange_choices : (Rule.oneOf choices).InRange := by
  have hint : (Number.int (-3)).InRange := ⟨by decide, by decide⟩
  refine List.forall_mem_cons.2 ⟨.string _, List.forall_mem_cons.2 ⟨?_, List.forall_mem_singleton.2 ?_⟩⟩
  · exact .object (List.pairwise_singleton _ _) (List.forall_mem_singleton.2 (.number trivial))
  · exact .array (List.forall_mem_cons.2 ⟨.null, List.forall_mem_singleton.2 (.number hint)⟩)

theorem ofDocument_document_item :
    ofDocument (document ⟨"Item", [price, parts]⟩) = .ok ⟨"Item", [price, parts]⟩ ∧
      same ⟨"Item", [price, parts]⟩ ⟨"Item", [price, parts]⟩ = true := by
  have hrules : rules ⟨"Item", [price, parts]⟩ =
      [.required, .range (.finite (.zero true)) (.finite twoAndHalf), .oneOf choices] := rfl
  refine ofDocument_document ?_ ?_ ?_ ?_
  · have hprice : price.Obtainable := by
      refine .withNullable (.withStep (.withCheckpoint (.withRule (.named "price") ?_) ?_) ?_) false
      · exact trivial
      · decide
      · exact trivial
    have hparts : parts.Obtainable := .withEach (.withRule (.named "parts") inRange_choices) "Part"
    exact List.forall_mem_cons.2 ⟨hprice, List.forall_mem_singleton.2 hparts⟩
  · rw [hrules]
    simp [Rule.bounds]
  · rw [hrules]
    simp [Rule.values, choices, Json.nesting, Json.nestingItems, Json.nestingMembers, Json.nestingMember,
      Decoder.nesting]
  · rw [hrules]
    refine List.forall_mem_cons.2 ⟨?_, List.forall_mem_cons.2 ⟨?_, List.forall_mem_singleton.2 ?_⟩⟩
    · simp [Rule.reals, Rule.values, Rule.bounds]
    · exact List.forall_mem_cons.2 ⟨recovered_zero, List.forall_mem_singleton.2 recovered_twoAndHalf⟩
    · exact List.forall_mem_singleton.2 recovered_twoAndHalf

end Schema

end Attest

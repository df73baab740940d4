import Attest.Proofs.Json.Decoding
import Attest.Rule.Document

/-!
Rules that are read back from their documents.

What is written of a rule spells drafts of its name and its parameters, and these are put together to the rule again
if its parameters are in the range of their types, its bounds are numbers, and its values are not nested too deep. A
rule that is read is always in range.
-/

namespace Attest

open Draft (Spells SpellsMember)

/-- The binary number of a bound that is one. -/
def Double.binary? : Double → Option Binary64
  | .finite x => some x
  | _ => none

namespace Rule

/-! ### What a rule holds -/

/-- The document values among the parameters of a rule. -/
def values : Rule → List Json
  | requiredIf _ equals | requiredUnless _ equals => [equals]
  | oneOf choices => choices
  | _ => []

/-- The bounds among the parameters of a rule. -/
def bounds : Rule → List Double
  | min bound | max bound => [bound]
  | range least greatest => [least, greatest]
  | _ => []

/-- The binary numbers that are written for a rule. -/
def reals (r : Rule) : List Binary64 :=
  r.values.flatMap Json.reals ++ r.bounds.filterMap Double.binary?

/-- Counts are 64-bit words, digits 32-bit words and divisors signed 64-bit words, and all values are proper. -/
def InRange : Rule → Prop
  | requiredIf _ equals | requiredUnless _ equals => equals.Proper
  | oneOf choices => ∀ v ∈ choices, v.Proper
  | minLength n | maxLength n | minSize n | maxSize n | jsonString n => n < Nat.pow 2 64
  | length least most => least < Nat.pow 2 64 ∧ most < Nat.pow 2 64
  | decimalPlaces n => n < Nat.pow 2 32
  | divisibleBy divisor => -Int.pow 2 63 ≤ divisor ∧ divisor ≤ Int.pow 2 63 - 1
  | _ => True

/-! ### The drafts of a rule -/

def countDraft (n : Nat) : Draft :=
  .number (.int n)

def boundDraft : Double → Draft
  | .finite x => .number (.real x)
  | _ => .null

/-- The parameters of a rule as they are read. -/
def parameters? : Rule → Option Draft
  | requiredIf field equals | requiredUnless field equals =>
      some (.object [("field", .string field), ("equals", .ofJson equals)] none)
  | requiredWith field | requiredWithout field => some (.object [("field", .string field)] none)
  | minLength n | maxLength n | minSize n | maxSize n | decimalPlaces n => some (countDraft n)
  | length least most => some (.object [("min", countDraft least), ("max", countDraft most)] none)
  | startsWith s | endsWith s | contains s | pattern s | equalsField s | notEqualsField s | custom s =>
      some (.string s)
  | oneOf choices => some (.array (choices.map Draft.ofJson) none)
  | min bound | max bound => some (boundDraft bound)
  | range least greatest => some (.object [("min", boundDraft least), ("max", boundDraft greatest)] none)
  | divisibleBy divisor => some (.number (.int divisor))
  | ipAddress family => some (.string (familyWord family))
  | jsonString maxDepth => some (.object [("max_depth", countDraft maxDepth)] none)
  | required | notBlank | lowercase | uppercase | email | url | uuid | positive | negative | even | odd
  | notEmpty | uniqueItems | past | future | pastOrPresent | futureOrPresent => none

def draftFields (rule : Rule) : List (String × Draft) :=
  ("rule", .string rule.name) :: (rule.parameters?.map fun d => ("value", d)).toList

theorem spells_countText {n : Nat} (h : n < Nat.pow 2 64) : Spells (countText n) (countDraft n) := by
  rw [countText, Json.render]
  refine Draft.spells_int ⟨?_, ?_⟩
  · have hleast : -Int.pow 2 63 ≤ 0 := by decide
    omega
  · have hgreatest : ((Nat.pow 2 64 : Nat) : Int) = Int.pow 2 64 := by decide
    omega

theorem spells_boundText {bound : Double} (h : ∀ x, bound = .finite x → x.Recovered) :
    Spells (boundText bound) (boundDraft bound) := by
  cases bound with
  | finite x => exact Draft.spells_real (h x rfl)
  | infinite _ | nan => exact Draft.spells_null

theorem spells_pair {key₁ key₂ : String} {text₁ text₂ : List Char} {d₁ d₂ : Draft} (h₁ : Spells text₁ d₁)
    (h₂ : Spells text₂ d₂) :
    Spells (Json.renderFields [(key₁, text₁), (key₂, text₂)]) (.object [(key₁, d₁), (key₂, d₂)] none) :=
  Draft.spells_fields (.cons ⟨rfl, h₁⟩ (.cons ⟨rfl, h₂⟩ .nil))

theorem spells_single {key : String} {text : List Char} {d : Draft} (h : Spells text d) :
    Spells (Json.renderFields [(key, text)]) (.object [(key, d)] none) :=
  Draft.spells_fields (.cons ⟨rfl, h⟩ .nil)

theorem recovered_of_mem_values {r : Rule} {v : Json} (hreals : ∀ x ∈ r.reals, x.Recovered) (hv : v ∈ r.values) :
    ∀ x ∈ v.reals, x.Recovered :=
  fun x hx => hreals x (List.mem_append_left _ (List.mem_flatMap.2 ⟨v, hv, hx⟩))

theorem recovered_of_mem_bounds {r : Rule} {bound : Double} (hreals : ∀ x ∈ r.reals, x.Recovered)
    (hbound : bound ∈ r.bounds) : ∀ x, bound = .finite x → x.Recovered :=
  fun x hx => hreals x (List.mem_append_right _ (List.mem_filterMap.2 ⟨bound, hbound, by rw [hx]; rfl⟩))

theorem lt_pow_of_lt {n : Nat} (h : n < Nat.pow 2 32) : n < Nat.pow 2 64 :=
  Nat.lt_of_lt_of_le h (by decide)

/-- What is written of the parameters spells their draft. -/
theorem spells_parameters {r : Rule} (h : r.InRange) (hreals : ∀ x ∈ r.reals, x.Recovered) :
    Option.Rel Spells r.valueText? r.parameters? := by
  have hvalue {v : Json} (hv : v ∈ r.values) := recovered_of_mem_values hreals hv
  have hbound {bound : Double} (hbound : bound ∈ r.bounds) := recovered_of_mem_bounds hreals hbound
  cases r with
  | requiredIf field equals | requiredUnless field equals =>
      exact .some (spells_pair (Draft.spells_quote field)
        (Draft.spells_render h (hvalue (List.mem_singleton_self equals))))
  | requiredWith field | requiredWithout field => exact .some (spells_single (Draft.spells_quote field))
  | minLength n | maxLength n | minSize n | maxSize n => exact .some (spells_countText h)
  | decimalPlaces n => exact .some (spells_countText (lt_pow_of_lt h))
  | length least most => exact .some (spells_pair (spells_countText h.1) (spells_countText h.2))
  | startsWith s | endsWith s | contains s | pattern s | equalsField s | notEqualsField s | custom s =>
      exact .some (Draft.spells_quote s)
  | oneOf choices =>
      have hspells := Draft.spells_render (.array h) fun x hx => by
        rw [Json.reals, Json.realsOfItems_eq_flatMap] at hx
        exact hreals x (List.mem_append_left _ hx)
      rw [Draft.ofJson, Draft.ofItems_eq_map] at hspells
      exact .some hspells
  | min bound | max bound => exact .some (spells_boundText (hbound (List.mem_singleton_self bound)))
  | range least greatest =>
      exact .some (spells_pair (spells_boundText (hbound (List.mem_cons_self)))
        (spells_boundText (hbound (List.mem_cons_of_mem _ List.mem_cons_self))))
  | divisibleBy divisor =>
      have hle : Int.pow 2 63 ≤ Int.pow 2 64 := by decide
      refine .some (Draft.spells_int ⟨h.1, Int.le_trans h.2 ?_⟩)
      omega
  | ipAddress family => exact .some (Draft.spells_quote _)
  | jsonString maxDepth => exact .some (spells_single (spells_countText h))
  | required | notBlank | lowercase | uppercase | email | url | uuid | positive | negative | even | odd
  | notEmpty | uniqueItems | past | future | pastOrPresent | futureOrPresent => exact .none

theorem spells_documentFields {r : Rule} (h : r.InRange) (hreals : ∀ x ∈ r.reals, x.Recovered) :
    List.Forall₂ SpellsMember r.documentFields r.draftFields := by
  refine .cons ⟨rfl, Draft.spells_quote r.name⟩ ?_
  have hparameters := spells_parameters h hreals
  generalize r.valueText? = text?, r.parameters? = parameters? at hparameters ⊢
  cases hparameters with
  | none => exact .nil
  | some hspells => exact .cons ⟨rfl, hspells⟩ .nil

theorem ofMembers_draftFields (r : Rule) :
    RuleParts.ofMembers r.draftFields = .ok ⟨some (.string r.name), r.parameters?⟩ := by
  rw [draftFields]
  cases r.parameters? <;> rfl

/-! ### Reading the parameters -/

section

variable {α β : Type} {value₁ : Decoder α} {value₂ : Decoder β} {key₁ key₂ : String} {d₁ d₂ : Draft} {a : α} {b : β}
  {depth : Nat}

theorem count_countDraft {bits n : Nat} (h : n < Nat.pow 2 bits) (depth : Nat) :
    Decoder.natural bits depth (countDraft n) = .ok n := by
  have hpow : Int.pow 2 bits = (Nat.pow 2 bits : Nat) := (Int.natCast_pow 2 bits).symm
  have hbounds : (0 : Int) ≤ n ∧ (n : Int) ≤ Int.pow 2 bits - 1 := by omega
  rw [Decoder.natural, countDraft, Decoder.integer, if_pos hbounds]
  rfl

theorem pair_object (hne : key₁ ≠ key₂) (h₁ : value₁ depth d₁ = .ok a) (h₂ : value₂ depth d₂ = .ok b) :
    pair key₁ value₁ key₂ value₂ (depth + 1) (.object [(key₁, d₁), (key₂, d₂)] none) = .ok (a, b) := by
  have hkey : (key₂ == key₁) = false := beq_false_of_ne hne.symm
  simp [pair, fields, Decoder.record, List.lookup_cons, hkey, h₁, h₂]

theorem single_object (h : value₁ depth d₁ = .ok a) :
    single key₁ value₁ (depth + 1) (.object [(key₁, d₁)] none) = .ok a := by
  simp [single, fields, Decoder.record, h]

theorem optionalSingle_object (h : value₁ depth d₁ = .ok a) (otherwise : α) :
    optionalSingle key₁ value₁ otherwise (depth + 1) (.object [(key₁, d₁)] none) = .ok a := by
  simp [optionalSingle, fields, Decoder.record, h]

theorem taking_some {make : α → Rule} (h : value₁ Decoder.nesting d₁ = .ok a) :
    taking value₁ make (some d₁) = .ok (make a) := by
  rw [taking, h]
  rfl

end

/-- A rule is read back from the draft of its parameters by the reader that its name stands for. -/
theorem read_parameters {r : Rule} (h : r.InRange) (hbounds : ∀ x ∈ r.bounds, ∃ y, x = .finite y)
    (hvalues : ∀ v ∈ r.values, v.nesting < Decoder.nesting) :
    ∃ read, reader? r.name = some read ∧ read r.parameters? = .ok r := by
  have hcount {n : Nat} (hn : n < Nat.pow 2 64) (depth : Nat) : count depth (countDraft n) = .ok n :=
    count_countDraft hn depth
  cases r with
  | requiredIf field equals | requiredUnless field equals =>
      have hdepth := Nat.le_of_lt_succ (hvalues equals (List.mem_singleton_self equals))
      exact ⟨_, rfl, taking_some (pair_object (by decide) rfl (Decoder.json_ofJson h hdepth))⟩
  | requiredWith field | requiredWithout field => exact ⟨_, rfl, taking_some (single_object rfl)⟩
  | minLength n | maxLength n | minSize n | maxSize n => exact ⟨_, rfl, taking_some (hcount h _)⟩
  | decimalPlaces n => exact ⟨_, rfl, taking_some (count_countDraft h _)⟩
  | length least most =>
      exact ⟨_, rfl, taking_some (pair_object (by decide) (hcount h.1 _) (hcount h.2 _))⟩
  | startsWith s | endsWith s | contains s | pattern s | equalsField s | notEqualsField s | custom s =>
      exact ⟨_, rfl, rfl⟩
  | oneOf choices =>
      refine ⟨_, rfl, taking_some (Decoder.list_map fun v hv => ?_)⟩
      exact Decoder.json_ofJson (h v hv) (Nat.le_of_lt_succ (hvalues v hv))
  | min bound | max bound =>
      obtain ⟨x, rfl⟩ := hbounds bound (List.mem_singleton_self bound)
      exact ⟨_, rfl, rfl⟩
  | range least greatest =>
      obtain ⟨x, rfl⟩ := hbounds least List.mem_cons_self
      obtain ⟨y, rfl⟩ := hbounds greatest (List.mem_cons_of_mem _ List.mem_cons_self)
      exact ⟨_, rfl, taking_some (pair_object (by decide) rfl rfl)⟩
  | divisibleBy divisor => exact ⟨_, rfl, taking_some (if_pos h)⟩
  | ipAddress family =>
      refine ⟨_, rfl, ?_⟩
      cases family <;> rfl
  | jsonString maxDepth => exact ⟨_, rfl, taking_some (optionalSingle_object (hcount h _) _)⟩
  | required | notBlank | lowercase | uppercase | email | url | uuid | positive | negative | even | odd
  | notEmpty | uniqueItems | past | future | pastOrPresent | futureOrPresent => exact ⟨_, rfl, rfl⟩

/-- A rule is put together again from its name and the draft of its parameters. -/
theorem ofParts_parameters {r : Rule} (h : r.InRange) (hbounds : ∀ x ∈ r.bounds, ∃ y, x = .finite y)
    (hvalues : ∀ v ∈ r.values, v.nesting < Decoder.nesting) :
    ofParts ⟨some (.string r.name), r.parameters?⟩ = .ok r := by
  obtain ⟨read, hname, hread⟩ := read_parameters h hbounds hvalues
  have hword : Decoder.word reader? Decoder.nesting (.string r.name) = .ok read := by
    rw [Decoder.word, hname]
    rfl
  simp only [ofParts, hword, hread, Except.mapError]

end Rule

/-! ### Steps -/

/-- The parameters of a rule are looked over as a value before its name is known. -/
theorem Rule.exists_json_parameters {r : Rule} {depth : Nat}
    (hvalues : ∀ v ∈ r.values, v.nesting ≤ depth) :
    ∀ d ∈ r.parameters?, ∃ v, Decoder.json (depth + 1) d = .ok v := by
  have hsome {d : Draft} (hd : ∃ v, Decoder.json (depth + 1) d = .ok v) :
      ∀ e ∈ some d, ∃ v, Decoder.json (depth + 1) e = .ok v := by
    rintro _ ⟨⟩
    exact hd
  have hcount (n : Nat) : ∃ v, Decoder.json depth (countDraft n) = .ok v := ⟨_, rfl⟩
  have hbound (depth : Nat) (x : Double) : ∃ v, Decoder.json depth (boundDraft x) = .ok v := by
    cases x <;> exact ⟨_, rfl⟩
  cases r with
  | requiredIf field equals | requiredUnless field equals =>
      have hequals := (Decoder.exists_json_ofJson_iff equals depth).2 (hvalues equals List.mem_cons_self)
      exact hsome (Decoder.exists_json_object_iff.2
        (List.forall_mem_cons.2 ⟨⟨_, rfl⟩, List.forall_mem_singleton.2 hequals⟩))
  | oneOf choices =>
      refine hsome (Decoder.exists_json_array_iff.2 (List.forall_mem_map.2 fun v hv => ?_))
      exact (Decoder.exists_json_ofJson_iff v depth).2 (hvalues v hv)
  | requiredWith field | requiredWithout field =>
      exact hsome (Decoder.exists_json_object_iff.2 (List.forall_mem_singleton.2 ⟨_, rfl⟩))
  | jsonString maxDepth =>
      exact hsome (Decoder.exists_json_object_iff.2 (List.forall_mem_singleton.2 (hcount maxDepth)))
  | length least most =>
      exact hsome (Decoder.exists_json_object_iff.2
        (List.forall_mem_cons.2 ⟨hcount least, List.forall_mem_singleton.2 (hcount most)⟩))
  | range least greatest =>
      exact hsome (Decoder.exists_json_object_iff.2
        (List.forall_mem_cons.2 ⟨hbound _ least, List.forall_mem_singleton.2 (hbound _ greatest)⟩))
  | min bound | max bound => exact hsome (hbound _ bound)
  | minLength n | maxLength n | minSize n | maxSize n | decimalPlaces n => exact hsome ⟨_, rfl⟩
  | startsWith s | endsWith s | contains s | pattern s | equalsField s | notEqualsField s | custom s =>
      exact hsome ⟨_, rfl⟩
  | divisibleBy divisor => exact hsome ⟨_, rfl⟩
  | ipAddress family => exact hsome ⟨_, rfl⟩
  | required | notBlank | lowercase | uppercase | email | url | uuid | positive | negative | even | odd
  | notEmpty | uniqueItems | past | future | pastOrPresent | futureOrPresent => rintro _ ⟨⟩

namespace Step

def draft (s : Step) : Draft :=
  .object (s.rule.draftFields ++ (s.message.map fun key => ("message", Draft.string key)).toList) none

theorem spells_render {s : Step} (h : s.rule.InRange) (hreals : ∀ x ∈ s.rule.reals, x.Recovered) :
    Spells s.render s.draft := by
  refine Draft.spells_fields (List.rel_append (Rule.spells_documentFields h hreals) ?_)
  cases s.message with
  | none => exact .nil
  | some key => exact .cons ⟨rfl, Draft.spells_quote key⟩ .nil

theorem foldlM_take {depth : Nat} {members : List (String × Draft)}
    (h : ∀ m ∈ members, m.1 ≠ "message" ∧ ∃ v, Decoder.json depth m.2 = .ok v) (others : List (String × Draft)) :
    members.foldlM (decoder.take depth) ⟨none, others⟩ = .ok ⟨none, members.reverse ++ others⟩ := by
  induction members generalizing others with
  | nil => rfl
  | cons m rest ih =>
      obtain ⟨⟨hname, v, hv⟩, hrest⟩ := List.forall_mem_cons.1 h
      have htake : decoder.take depth ⟨none, others⟩ m = .ok ⟨none, m :: others⟩ := by
        unfold decoder.take
        split
        next => exact absurd rfl hname
        next => rw [hv]; rfl
      rw [List.foldlM_cons, htake, List.reverse_cons, List.append_assoc]
      exact ih hrest (m :: others)

/-- A step is decoded of its draft if its values leave room for the step and its parameters around them. -/
theorem decoder_draft {s : Step} (h : s.rule.InRange) (hbounds : ∀ x ∈ s.rule.bounds, ∃ y, x = .finite y)
    {depth : Nat} (hdepth : depth < Decoder.nesting) (hvalues : ∀ v ∈ s.rule.values, v.nesting ≤ depth) :
    decoder (depth + 2) s.draft = .ok s := by
  obtain ⟨rule, message⟩ := s
  have hparts := Rule.ofParts_parameters h hbounds fun v hv => Nat.lt_of_le_of_lt (hvalues v hv) hdepth
  have hfields : ∀ m ∈ rule.draftFields, m.1 ≠ "message" ∧ ∃ v, Decoder.json (depth + 1) m.2 = .ok v := by
    refine List.forall_mem_cons.2 ⟨⟨by simp, _, rfl⟩, fun m hm => ?_⟩
    obtain ⟨d, hd, rfl⟩ : ∃ d ∈ rule.parameters?, ("value", d) = m := by simpa using hm
    exact ⟨by simp, Rule.exists_json_parameters hvalues d hd⟩
  -- The members of the rule are kept until the message, which comes last, has been read too.
  have hread := foldlM_take hfields []
  rw [draft, decoder, List.foldlM_append, hread]
  cases message <;>
    simp [decoder.take, Decoder.optional, Rule.ofMembers_draftFields, hparts]

end Step

/-! ### What is read is in range -/

namespace Rule

open Decoder

variable {α β : Type} {value₁ : Decoder α} {value₂ : Decoder β} {P : α → Prop} {Q : β → Prop}

theorem yields_fields {σ : Type} {I : σ → Prop} {fields : List (String × (σ → Nat → Draft → Except Fault σ))}
    {start : σ} (hstart : I start) (hfields : ∀ field ∈ fields, Keeps I field.2) :
    Yields (Rule.fields fields start) I := by
  intro depth d s hd h
  unfold Rule.fields at h
  split at h
  next => cases h
  next => exact yields_record hstart hfields _ _ _ hd h

theorem yields_optionalSingle (key : String) (h : Yields value₁ P) {otherwise : α} (hotherwise : P otherwise) :
    Yields (optionalSingle key value₁ otherwise) P := by
  intro depth d a hd ha
  obtain ⟨field, hfield, ha⟩ := Fault.bind_eq_ok_iff.1 ha
  obtain rfl := Except.ok.inj ha
  have hkeeps : Keeps (fun o => ∀ a ∈ o, P a) (once value₁) := fun _ _ _ _ hd _ hnew => h.once hd hnew
  have hfields : ∀ a ∈ field, P a :=
    yields_fields (I := fun o => ∀ a ∈ o, P a) (by simp) (List.forall_mem_singleton.2 hkeeps) depth d field hd hfield
  cases field with
  | none => exact hotherwise
  | some a => exact hfields a rfl

theorem yields_pair (key₁ key₂ : String) (h₁ : Yields value₁ P) (h₂ : Yields value₂ Q) :
    Yields (pair key₁ value₁ key₂ value₂) fun p => P p.1 ∧ Q p.2 := by
  intro depth d p hd hp
  obtain ⟨⟨a?, b?⟩, hfield, hp⟩ := Fault.bind_eq_ok_iff.1 hp
  obtain ⟨a, ha, hp⟩ := Fault.bind_eq_ok_iff.1 hp
  obtain ⟨b, hb, hp⟩ := Fault.bind_eq_ok_iff.1 hp
  obtain rfl := Except.ok.inj hp
  have hfields : (∀ a ∈ a?, P a) ∧ ∀ b ∈ b?, Q b := by
    refine yields_fields (I := fun s => (∀ a ∈ s.1, P a) ∧ ∀ b ∈ s.2, Q b) (by simp) ?_ depth d (a?, b?) hd hfield
    refine List.forall_mem_cons.2 ⟨?_, List.forall_mem_singleton.2 ?_⟩
    · intro s depth d s' hd hs hs'
      obtain ⟨new, hnew, heq⟩ := Fault.bind_eq_ok_iff.1 hs'
      obtain rfl := Except.ok.inj heq
      exact ⟨h₁.once hd hnew, hs.2⟩
    · intro s depth d s' hd hs hs'
      obtain ⟨new, hnew, heq⟩ := Fault.bind_eq_ok_iff.1 hs'
      obtain rfl := Except.ok.inj heq
      exact ⟨hs.1, h₂.once hd hnew⟩
  exact ⟨hfields.1 a (of_required ha), hfields.2 b (of_required hb)⟩

/-- Whatever a reader of parameters makes of proper drafts is in range. -/
def ReadsInRange (read : Option Draft → Except Fault Rule) : Prop :=
  ∀ value r, (∀ d ∈ value, d.Proper) → read value = .ok r → r.InRange

theorem readsInRange_bare {rule : Rule} (h : rule.InRange) : ReadsInRange (bare rule) := by
  intro value r _ hr
  unfold bare at hr
  split at hr
  · obtain rfl := Except.ok.inj hr
    exact h
  · obtain rfl := Except.ok.inj hr
    exact h
  · cases hr

theorem readsInRange_taking {make : α → Rule} (h : Yields value₁ P) (hmake : ∀ a, P a → (make a).InRange) :
    ReadsInRange (taking value₁ make) := by
  intro value r hvalue hr
  cases value with
  | none => cases hr
  | some d =>
      obtain ⟨a, ha, rfl⟩ := Fault.map_eq_ok_iff.1 hr
      exact hmake a (h _ d a (hvalue d rfl) ha)

theorem readsInRange_of_reader {name : String} {read : Option Draft → Except Fault Rule}
    (h : reader? name = some read) : ReadsInRange read := by
  unfold reader? at h
  split at h
  all_goals cases h
  -- One reader for each name; which lemma applies to it is told by the decoder of its parameters.
  all_goals first
    | refine readsInRange_bare ?_
      trivial
    | refine readsInRange_taking (yields_true _) ?_
      exact fun _ _ => trivial
    | refine readsInRange_taking (yields_natural _) ?_
      exact fun _ h => h
    | refine readsInRange_taking (yields_integer _ _) ?_
      exact fun _ h => h
    | refine readsInRange_taking yields_json.list ?_
      exact fun _ h => h
    | refine readsInRange_taking (yields_pair _ _ (yields_true _) yields_json) ?_
      exact fun _ h => h.2
    | refine readsInRange_taking (yields_pair _ _ (yields_natural 64) (yields_natural 64)) ?_
      exact fun _ h => h
    | refine readsInRange_taking (yields_optionalSingle _ (yields_natural 64) (by decide)) ?_
      exact fun _ h => h

theorem proper_of_ofMembers {members : List (String × Draft)} {parts : RuleParts} (h : ∀ m ∈ members, m.2.Proper)
    (hparts : RuleParts.ofMembers members = .ok parts) : ∀ d ∈ parts.value, d.Proper := by
  refine Fault.of_foldlM (I := fun parts => ∀ d ∈ parts.value, d.Proper) (fun m hm parts parts' hparts htake => ?_)
    (by simp) hparts
  unfold RuleParts.ofMembers.take at htake
  split at htake
  next =>
    split at htake
    next => cases htake
    next =>
      obtain rfl := Except.ok.inj htake
      exact hparts
  next =>
    split at htake
    next => cases htake
    next =>
      obtain rfl := Except.ok.inj htake
      simpa using h _ hm
  next =>
    obtain rfl := Except.ok.inj htake
    exact hparts

theorem inRange_of_ofParts {parts : RuleParts} {r : Rule} (hvalue : ∀ d ∈ parts.value, d.Proper)
    (h : ofParts parts = .ok r) : r.InRange := by
  unfold ofParts at h
  split at h
  next => cases h
  next =>
    split at h
    next => cases h
    next read hread =>
      obtain ⟨name, hname⟩ := exists_of_word hread
      cases hr : read parts.value with
      | error fault => simp [hr, Except.mapError] at h
      | ok found =>
          rw [hr] at h
          obtain rfl := Except.ok.inj h
          exact readsInRange_of_reader hname _ _ hvalue hr

end Rule

theorem Step.yields_decoder : Decoder.Yields Step.decoder fun s => s.rule.InRange := by
  intro depth d s hd h
  unfold Step.decoder at h
  split at h
  next => cases h
  next =>
    obtain ⟨progress, hprogress, h⟩ := Fault.bind_eq_ok_iff.1 h
    obtain ⟨-, -, h⟩ := Fault.bind_eq_ok_iff.1 h
    obtain ⟨parts, hparts, h⟩ := Fault.bind_eq_ok_iff.1 h
    obtain ⟨rule, hrule, h⟩ := Fault.bind_eq_ok_iff.1 h
    obtain rfl := Except.ok.inj h
    cases hd with
    | object _ hmembers =>
        have hothers : ∀ m ∈ progress.others, m.2.Proper := by
          refine Fault.of_foldlM (I := fun p => ∀ m ∈ p.others, m.2.Proper) (fun m hm p p' hp htake => ?_) (by simp)
            hprogress
          unfold Step.decoder.take at htake
          split at htake
          next =>
            obtain ⟨message, -, h⟩ := Fault.bind_eq_ok_iff.1 htake
            obtain rfl := Except.ok.inj h
            exact hp
          next =>
            obtain ⟨v, -, h⟩ := Fault.bind_eq_ok_iff.1 htake
            obtain rfl := Except.ok.inj h
            exact List.forall_mem_cons.2 ⟨hmembers _ hm, hp⟩
        refine Rule.inRange_of_ofParts (Rule.proper_of_ofMembers (fun m hm => ?_) hparts) hrule
        exact hothers m (List.mem_reverse.1 hm)
  next => cases h
  next => cases h

end Attest

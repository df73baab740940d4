import Attest.Proofs.Schema.Document

/-!
How deep the values in a schema can be nested if its document is to be read at all.

Whatever is decoded of a draft has had everything in that draft decoded, and each list and object takes one level off
what is allowed. Around a value of a rule stand its parameters, its step, the list of steps, its field, the list of
fields and the schema. So the values of schemas that are read back are those that are nested six levels less deep than
a document can be.
-/

namespace Attest

namespace Fault

/-- A fold that succeeds has taken each of its steps. -/
theorem exists_of_foldlM {α σ : Type} {f : σ → α → Except Fault σ} {xs : List α} {s s' : σ}
    (h : xs.foldlM f s = .ok s') : ∀ x ∈ xs, ∃ t t', f t x = .ok t' := by
  induction xs generalizing s with
  | nil => simp
  | cons x rest ih =>
      rw [List.foldlM_cons] at h
      obtain ⟨t, ht, h⟩ := bind_eq_ok_iff.1 h
      exact List.forall_mem_cons.2 ⟨⟨s, t, ht⟩, ih h⟩

end Fault

namespace Decoder

variable {α σ : Type} {value : Decoder α} {depth : Nat} {ending : Option Fault}

theorem exists_of_once {old new : Option α} {d : Draft} (h : once value old depth d = .ok new) :
    ∃ a, value depth d = .ok a := by
  cases old with
  | none =>
      obtain ⟨a, ha, -⟩ := Fault.map_eq_ok_iff.1 h
      exact ⟨a, ha⟩
  | some old => cases h

theorem exists_of_list {ds : List Draft} {as : List α} (h : list value depth (.array ds ending) = .ok as) :
    ∃ rest, depth = rest + 1 ∧ ∀ d ∈ ds, ∃ a, value rest d = .ok a := by
  have hitems {depth : Nat} {ds : List Draft} {as : List α} (h : ds.mapM (value depth) = .ok as) :
      ∀ d ∈ ds, ∃ a, value depth d = .ok a := by
    induction ds generalizing as with
    | nil => simp
    | cons d rest ih =>
        rw [List.mapM_cons] at h
        obtain ⟨a, ha, h⟩ := Fault.bind_eq_ok_iff.1 h
        obtain ⟨as, has, -⟩ := Fault.bind_eq_ok_iff.1 h
        exact List.forall_mem_cons.2 ⟨⟨a, ha⟩, ih has⟩
  cases depth with
  | zero => cases h
  | succ rest =>
      obtain ⟨as, has, -⟩ := Fault.bind_eq_ok_iff.1 h
      exact ⟨rest, rfl, hitems has⟩

/-- A record that was read of an object has had each field of that object read. -/
theorem exists_of_record {fields : List (String × (σ → Nat → Draft → Except Fault σ))} {start s : σ}
    {members : List (String × Draft)} (h : record fields start depth (.object members ending) = .ok s) :
    ∃ rest, depth = rest + 1 ∧
      ∀ m ∈ members, ∀ field ∈ fields.lookup m.1, ∃ t t', field t rest m.2 = .ok t' := by
  cases depth with
  | zero => cases h
  | succ rest =>
      obtain ⟨s, hfold, -⟩ := Fault.bind_eq_ok_iff.1 h
      refine ⟨rest, rfl, ?_⟩
      rintro ⟨key, d⟩ hm field hfield
      obtain ⟨t, t', ht⟩ := Fault.exists_of_foldlM hfold (key, d) hm
      dsimp only at ht hfield
      rw [Option.mem_def.1 hfield] at ht
      exact ⟨t, t', ht⟩

end Decoder

theorem Rule.nesting_lt_of_json {r : Rule} {depth : Nat}
    (h : ∀ d ∈ r.parameters?, ∃ v, Decoder.json depth d = .ok v) : ∀ v ∈ r.values, v.nesting < depth := by
  cases r with
  | requiredIf field equals | requiredUnless field equals =>
      have hparameters := h _ rfl
      cases depth with
      | zero =>
          obtain ⟨v, hv⟩ := hparameters
          cases hv
      | succ depth =>
          have hequals := Decoder.exists_json_object_iff.1 hparameters ("equals", .ofJson equals) (by simp)
          exact List.forall_mem_singleton.2 (Nat.lt_succ_of_le ((Decoder.exists_json_ofJson_iff _ _).1 hequals))
  | oneOf choices =>
      have hparameters := h _ rfl
      cases depth with
      | zero =>
          obtain ⟨v, hv⟩ := hparameters
          cases hv
      | succ depth =>
          have hchoices := List.forall_mem_map.1 (Decoder.exists_json_array_iff.1 hparameters)
          exact fun v hv => Nat.lt_succ_of_le ((Decoder.exists_json_ofJson_iff v depth).1 (hchoices v hv))
  | _ => exact fun v hv => nomatch hv

theorem Step.nesting_le_of_decoder {s t : Step} {depth : Nat} (h : decoder depth s.draft = .ok t) :
    ∀ v ∈ s.rule.values, v.nesting + 2 ≤ depth := by
  cases depth with
  | zero => cases h
  | succ depth =>
      obtain ⟨progress, hprogress, -⟩ := Fault.bind_eq_ok_iff.1 h
      have hparameters : ∀ d ∈ s.rule.parameters?, ∃ v, Decoder.json depth d = .ok v := by
        intro d hd
        have hmem : ("value", d) ∈ s.rule.draftFields := by simp [Rule.draftFields, Option.mem_def.1 hd]
        obtain ⟨p, p', hp⟩ := Fault.exists_of_foldlM hprogress _ (List.mem_append_left _ hmem)
        obtain ⟨v, hv, -⟩ := Fault.bind_eq_ok_iff.1 hp
        exact ⟨v, hv⟩
      exact fun v hv => Nat.succ_le_succ (Rule.nesting_lt_of_json hparameters v hv)

theorem Field.nesting_le_of_decoder {f g : Field} {depth : Nat} (h : decoder depth f.draft = .ok g) :
    ∀ s ∈ f.steps, ∀ v ∈ s.rule.values, v.nesting + 4 ≤ depth := by
  obtain ⟨p, hp, -⟩ := Fault.bind_eq_ok_iff.1 h
  obtain ⟨depth, rfl, hfields⟩ := Decoder.exists_of_record hp
  have hmem : ("steps", .array (f.steps.map Step.draft) none) ∈ f.draftMembers := by simp [draftMembers]
  obtain ⟨t, t', ht⟩ := hfields _ hmem _ rfl
  obtain ⟨new, hnew, -⟩ := Fault.bind_eq_ok_iff.1 ht
  obtain ⟨steps, hlist⟩ := Decoder.exists_of_once hnew
  obtain ⟨depth, rfl, hsteps⟩ := Decoder.exists_of_list hlist
  intro s hs v hv
  obtain ⟨t, ht⟩ := List.forall_mem_map.1 hsteps s hs
  exact Nat.add_le_add_right (Step.nesting_le_of_decoder ht v hv) 2

namespace Schema

theorem nesting_le_of_decoder {s t : Schema} {depth : Nat} (h : decoder depth s.draft = .ok t) :
    ∀ r ∈ s.rules, ∀ v ∈ r.values, v.nesting + 6 ≤ depth := by
  obtain ⟨p, hp, -⟩ := Fault.bind_eq_ok_iff.1 h
  obtain ⟨depth, rfl, hmembers⟩ := Decoder.exists_of_record hp
  obtain ⟨t, t', ht⟩ := hmembers ("fields", .array (s.fields.map Field.draft) none) (by simp) _ rfl
  obtain ⟨new, hnew, -⟩ := Fault.bind_eq_ok_iff.1 ht
  obtain ⟨fields, hlist⟩ := Decoder.exists_of_once hnew
  obtain ⟨depth, rfl, hfields⟩ := Decoder.exists_of_list hlist
  intro r hr v hv
  obtain ⟨f, hf, hr⟩ := List.mem_flatMap.1 hr
  obtain ⟨step, hstep, rfl⟩ := List.mem_map.1 hr
  obtain ⟨g, hg⟩ := List.forall_mem_map.1 hfields f hf
  exact Nat.add_le_add_right (Field.nesting_le_of_decoder hg step hstep v hv) 2

/-- The limit is exact: a schema that could be read back but for the nesting of its values is read back if all of them
leave room for the six containers around them, and only then. -/
theorem ofDocument_document_iff {s : Schema} (h : ∀ f ∈ s.fields, f.Obtainable)
    (hbounds : ∀ r ∈ s.rules, ∀ x ∈ r.bounds, ∃ y, x = .finite y)
    (hreals : ∀ r ∈ s.rules, ∀ x ∈ r.reals, x.Recovered) :
    ofDocument s.document = .ok s ↔ ∀ r ∈ s.rules, ∀ v ∈ r.values, v.nesting + 6 ≤ Decoder.nesting := by
  have hrange : ∀ f ∈ s.fields, f.InRange := fun f hf => (h f hf).inRange
  rw [ofDocument, document, Decoder.decodeText_of_spells (spells_render hrange hreals)]
  refine ⟨nesting_le_of_decoder, fun hvalues => ?_⟩
  exact decoder_draft hrange hbounds (by decide) fun r hr v hv => Nat.le_sub_of_add_le (hvalues r hr v hv)

end Schema

end Attest

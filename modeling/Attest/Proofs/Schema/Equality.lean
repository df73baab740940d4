import Attest.Proofs.Rule.Document
import Attest.Schema.Basic

/-!
Which schemas equal themselves: all whose bounds are numbers. Document values always do.
-/

namespace Attest

theorem Number.same_self (n : Number) : n.same n = true := by
  cases n <;> simp [same]

namespace Json

mutual

theorem same_self : ∀ v : Json, v.same v = true
  | .null => rfl
  | .bool b => beq_self_eq_true b
  | .number n => n.same_self
  | .string s => beq_self_eq_true s
  | .array items => sameItems_self items
  | .object members => sameMembers_self members
termination_by structural v => v

theorem sameItems_self : ∀ items : List Json, sameItems items items = true
  | [] => rfl
  | v :: rest => by rw [sameItems, same_self v, sameItems_self rest, Bool.and_self]
termination_by structural items => items

theorem sameMembers_self : ∀ members : List (String × Json), sameMembers members members = true
  | [] => rfl
  | m :: rest => by rw [sameMembers, sameMember_self m, sameMembers_self rest, Bool.and_self]
termination_by structural members => members

theorem sameMember_self : ∀ m : String × Json, sameMember m m = true
  | (key, v) => by rw [sameMember, same_self v, beq_self_eq_true, Bool.and_self]
termination_by structural m => m

end

end Json

theorem Double.equal_self {x : Double} (h : ∃ y, x = .finite y) : x.equal x = true := by
  obtain ⟨y, rfl⟩ := h
  simp [equal, compare?]

theorem Rule.same_self {r : Rule} (h : ∀ x ∈ r.bounds, ∃ y, x = .finite y) : r.same r = true := by
  cases r with
  | requiredIf field equals | requiredUnless field equals => simp [same, equals.same_self]
  | oneOf choices => exact Json.sameItems_self choices
  | min bound | max bound => exact Double.equal_self (h bound List.mem_cons_self)
  | range least greatest =>
      have hleast := Double.equal_self (h least List.mem_cons_self)
      have hgreatest := Double.equal_self (h greatest (List.mem_cons_of_mem _ List.mem_cons_self))
      rw [same, hleast, hgreatest, Bool.and_self]
  | _ => simp [same]

theorem Step.same_self {s : Step} (h : ∀ x ∈ s.rule.bounds, ∃ y, x = .finite y) : s.same s = true := by
  rw [same, Rule.same_self h, beq_self_eq_true, Bool.and_self]

theorem Field.same_self {f : Field} (h : ∀ s ∈ f.steps, ∀ x ∈ s.rule.bounds, ∃ y, x = .finite y) :
    f.same f = true := by
  have hsteps (steps : List Step) (h : ∀ s ∈ steps, ∀ x ∈ s.rule.bounds, ∃ y, x = .finite y) :
      same.sameSteps steps steps = true := by
    induction steps with
    | nil => rfl
    | cons s rest ih =>
        obtain ⟨hs, hrest⟩ := List.forall_mem_cons.1 h
        rw [same.sameSteps, Step.same_self hs, ih hrest, Bool.and_self]
  simp [same, hsteps f.steps h]

theorem Schema.same_self {s : Schema}
    (h : ∀ f ∈ s.fields, ∀ step ∈ f.steps, ∀ x ∈ step.rule.bounds, ∃ y, x = .finite y) : s.same s = true := by
  have hfields (fields : List Field)
      (h : ∀ f ∈ fields, ∀ step ∈ f.steps, ∀ x ∈ step.rule.bounds, ∃ y, x = .finite y) :
      same.sameFields fields fields = true := by
    induction fields with
    | nil => rfl
    | cons f rest ih =>
        obtain ⟨hf, hrest⟩ := List.forall_mem_cons.1 h
        rw [same.sameFields, Field.same_self hf, ih hrest, Bool.and_self]
  simp [same, hfields s.fields h]

end Attest

import Attest.Proofs.Json.Nesting
import Attest.Proofs.Json.Spelling

/-!
Values as documents give them.

In a value that was read every integer is a 64-bit word and the members of every object are in the order of their
keys. Such a value is written as a text that spells its draft, apart from binary numbers that are not recovered, and
its draft is decoded as the value, if it is not nested deeper than is allowed.
-/

namespace Attest

open Draft (Spells SpellsMember)

namespace Json

/-- A value whose integers are 64-bit words, with the members of every object in the order of their keys. -/
inductive Proper : Json → Prop
  | null : Proper .null
  | bool (b : Bool) : Proper (.bool b)
  | number {n : Number} (h : n.InRange) : Proper (.number n)
  | string (s : String) : Proper (.string s)
  | array {items : List Json} (h : ∀ v ∈ items, Proper v) : Proper (.array items)
  | object {members : List (String × Json)} (hsorted : members.Pairwise fun m n => m.1 < n.1)
      (h : ∀ m ∈ members, Proper m.2) : Proper (.object members)

mutual

/-- The binary numbers of a value. -/
def reals : Json → List Binary64
  | .number (.real x) => [x]
  | .array items => realsOfItems items
  | .object members => realsOfMembers members
  | .number (.int _) | .null | .bool _ | .string _ => []
termination_by structural v => v

def realsOfItems : List Json → List Binary64
  | [] => []
  | v :: rest => v.reals ++ realsOfItems rest
termination_by structural vs => vs

def realsOfMembers : List (String × Json) → List Binary64
  | [] => []
  | m :: rest => realsOfMember m ++ realsOfMembers rest
termination_by structural ms => ms

def realsOfMember : String × Json → List Binary64
  | (_, v) => v.reals
termination_by structural m => m

end

theorem realsOfItems_eq_flatMap (items : List Json) : realsOfItems items = items.flatMap reals := by
  induction items with
  | nil => rfl
  | cons v rest ih => rw [realsOfItems, ih, List.flatMap_cons]

theorem realsOfMembers_eq_flatMap (members : List (String × Json)) :
    realsOfMembers members = members.flatMap fun m => m.2.reals := by
  induction members with
  | nil => rfl
  | cons m rest ih =>
      obtain ⟨key, v⟩ := m
      rw [realsOfMembers, realsOfMember, ih, List.flatMap_cons]

/-! ### Writing -/

theorem renderItems_eq_map (items : List Json) : renderItems items = items.map render := by
  induction items with
  | nil => rfl
  | cons v rest ih => rw [renderItems, ih, List.map_cons]

theorem render_array (items : List Json) : (Json.array items).render = renderList (items.map render) := by
  rw [render, renderItems_eq_map, renderList]

theorem renderMembers_eq_map (members : List (String × Json)) :
    renderMembers members = (members.map fun m => (m.1, m.2.render)).map Grammar.fieldText := by
  induction members with
  | nil => rfl
  | cons m rest ih =>
      obtain ⟨key, v⟩ := m
      rw [renderMembers, renderMember, ih, List.map_cons, List.map_cons, Grammar.fieldText]

theorem render_object (members : List (String × Json)) :
    (Json.object members).render = renderFields (members.map fun m => (m.1, m.2.render)) := by
  rw [render, renderMembers_eq_map, Grammar.renderFields_eq]

end Json

theorem Draft.ofItems_eq_map (items : List Json) : ofItems items = items.map ofJson := by
  induction items with
  | nil => rfl
  | cons v rest ih => rw [ofItems, ih, List.map_cons]

theorem Draft.ofMembers_eq_map (members : List (String × Json)) :
    ofMembers members = members.map fun m => (m.1, ofJson m.2) := by
  induction members with
  | nil => rfl
  | cons m rest ih =>
      obtain ⟨key, v⟩ := m
      rw [ofMembers, ofMember, ih, List.map_cons]

/-- What is written of a value spells its draft. -/
theorem Draft.spells_render {v : Json} (h : v.Proper) (hreals : ∀ x ∈ v.reals, x.Recovered) :
    Spells v.render (.ofJson v) := by
  induction h with
  | null => exact spells_null
  | bool b => exact spells_bool b
  | @number n hrange =>
      cases n with
      | int n => exact spells_int hrange
      | real x => exact spells_real (hreals x (List.mem_singleton_self x))
  | string s => exact spells_quote s
  | @array items _ ih =>
      rw [Json.reals, Json.realsOfItems_eq_flatMap] at hreals
      rw [Json.render_array, ofJson, ofItems_eq_map]
      exact spells_map fun v hv => ih v hv fun x hx => hreals x (List.mem_flatMap.2 ⟨v, hv, hx⟩)
  | @object members _ _ ih =>
      rw [Json.reals, Json.realsOfMembers_eq_flatMap] at hreals
      rw [Json.render_object, ofJson, ofMembers_eq_map]
      refine spells_fields (List.forall₂_map_left_iff.2 (List.forall₂_map_right_iff.2 (List.forall₂_same.2 ?_)))
      exact fun m hm => ⟨rfl, ih m hm fun x hx => hreals x (List.mem_flatMap.2 ⟨m, hm, hx⟩)⟩

/-! ### Objects from their members -/

namespace Json

theorem insertMember_of_forall_lt {key : String} {value : Json} {members : List (String × Json)}
    (h : ∀ m ∈ members, m.1 < key) : insertMember key value members = members ++ [(key, value)] := by
  induction members with
  | nil => rfl
  | cons m rest ih =>
      obtain ⟨hm, hrest⟩ := List.forall_mem_cons.1 h
      have hne : key ≠ m.1 := fun heq => String.lt_irrefl _ (heq ▸ hm)
      rw [insertMember, if_neg (String.lt_asymm hm), if_neg hne, ih hrest, List.cons_append]

/-- An object with its members in order is what they are put together to. -/
theorem ofMembers_of_sorted {members : List (String × Json)} (h : members.Pairwise fun m n => m.1 < n.1) :
    ofMembers members = .object members := by
  -- Every member goes behind those that are there.
  have hfold (before after : List (String × Json)) (h : (before ++ after).Pairwise fun m n => m.1 < n.1) :
      after.foldl (fun ms m => insertMember m.1 m.2 ms) before = before ++ after := by
    induction after generalizing before with
    | nil => rw [List.append_nil]; rfl
    | cons m after ih =>
        rw [List.append_cons] at h ⊢
        have hbefore : ∀ n ∈ before, n.1 < m.1 := fun n hn =>
          (List.pairwise_append.1 (List.pairwise_append.1 h).1).2.2 n hn m (List.mem_singleton_self m)
        rw [List.foldl_cons, insertMember_of_forall_lt hbefore]
        exact ih _ h
  exact congrArg Json.object (hfold [] members h)

theorem mem_insertMember {key : String} {value : Json} {members : List (String × Json)} {m : String × Json}
    (h : m ∈ insertMember key value members) : m = (key, value) ∨ m ∈ members := by
  induction members with
  | nil => exact .inl (List.mem_singleton.1 h)
  | cons n rest ih =>
      rw [insertMember] at h
      split_ifs at h
      · exact List.mem_cons.1 h
      · rcases List.mem_cons.1 h with rfl | h
        · exact .inl rfl
        · exact .inr (List.mem_cons_of_mem _ h)
      · rcases List.mem_cons.1 h with rfl | h
        · exact .inr List.mem_cons_self
        · exact (ih h).imp_right (List.mem_cons_of_mem _)

theorem insertMember_sorted {key : String} {value : Json} {members : List (String × Json)}
    (h : members.Pairwise fun m n => m.1 < n.1) :
    (insertMember key value members).Pairwise fun m n => m.1 < n.1 := by
  induction members with
  | nil => exact List.pairwise_singleton _ _
  | cons n rest ih =>
      obtain ⟨hn, hrest⟩ := List.pairwise_cons.1 h
      rw [insertMember]
      split_ifs with hlt heq
      · refine List.pairwise_cons.2 ⟨fun m hm => ?_, h⟩
        rcases List.mem_cons.1 hm with rfl | hm
        · exact hlt
        · exact String.lt_trans hlt (hn m hm)
      · exact List.pairwise_cons.2 ⟨fun m hm => heq ▸ hn m hm, hrest⟩
      · refine List.pairwise_cons.2 ⟨fun m hm => ?_, ih hrest⟩
        rcases mem_insertMember hm with rfl | hm
        · exact String.not_le.1 fun hle => heq (String.le_antisymm hle (String.not_lt.1 hlt))
        · exact hn m hm

/-- Whatever the members are and in whatever order, the object of proper values is proper. -/
theorem proper_ofMembers {members : List (String × Json)} (h : ∀ m ∈ members, m.2.Proper) :
    (ofMembers members).Proper := by
  have hfold (before after : List (String × Json)) (hsorted : before.Pairwise fun m n => m.1 < n.1)
      (hbefore : ∀ m ∈ before, m.2.Proper) (hafter : ∀ m ∈ after, m.2.Proper) :
      (Json.object (after.foldl (fun ms m => insertMember m.1 m.2 ms) before)).Proper := by
    induction after generalizing before with
    | nil => exact .object hsorted hbefore
    | cons m after ih =>
        obtain ⟨hm, hafter⟩ := List.forall_mem_cons.1 hafter
        refine ih _ (insertMember_sorted hsorted) (fun n hn => ?_) hafter
        rcases mem_insertMember hn with rfl | hn
        · exact hm
        · exact hbefore n hn
  exact hfold [] members .nil (fun m hm => nomatch hm) h

end Json

end Attest

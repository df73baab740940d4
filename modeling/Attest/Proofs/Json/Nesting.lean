import Attest.Json.Basic

/-!
How deep a value is nested. What is in a list or an object is nested less deep than the list or object itself.
-/

namespace Attest

namespace Json

mutual

/-- How many lists and objects are around each other in a value. -/
def nesting : Json → Nat
  | .array items => nestingItems items + 1
  | .object members => nestingMembers members + 1
  | .null | .bool _ | .number _ | .string _ => 0
termination_by structural v => v

def nestingItems : List Json → Nat
  | [] => 0
  | v :: rest => max v.nesting (nestingItems rest)
termination_by structural vs => vs

def nestingMembers : List (String × Json) → Nat
  | [] => 0
  | m :: rest => max (nestingMember m) (nestingMembers rest)
termination_by structural ms => ms

def nestingMember : String × Json → Nat
  | (_, v) => v.nesting
termination_by structural m => m

end

theorem nesting_le_of_mem {v : Json} {items : List Json} (h : v ∈ items) : v.nesting ≤ nestingItems items := by
  induction items with
  | nil => cases h
  | cons w rest ih =>
      rw [nestingItems]
      rcases List.mem_cons.1 h with rfl | hrest
      · exact Nat.le_max_left _ _
      · exact Nat.le_trans (ih hrest) (Nat.le_max_right _ _)

theorem nesting_le_of_mem_members {m : String × Json} {members : List (String × Json)} (h : m ∈ members) :
    m.2.nesting ≤ nestingMembers members := by
  induction members with
  | nil => cases h
  | cons n rest ih =>
      obtain ⟨key, w⟩ := n
      rw [nestingMembers, nestingMember]
      rcases List.mem_cons.1 h with rfl | hrest
      · exact Nat.le_max_left _ _
      · exact Nat.le_trans (ih hrest) (Nat.le_max_right _ _)

theorem nesting_le_of_lookup {key : String} {v : Json} {members : List (String × Json)}
    (h : members.lookup key = some v) : v.nesting ≤ nestingMembers members := by
  obtain ⟨before, after, rfl, -⟩ := List.lookup_eq_some_iff.1 h
  have hmem : (key, v) ∈ before ++ (key, v) :: after := List.mem_append_right before List.mem_cons_self
  exact nesting_le_of_mem_members hmem

/-- What a member is nested in the object is nested in too, and in itself. -/
theorem nesting_member_lt {value : Json} {key : String} (h : (value.member key).isNull = false) :
    (value.member key).nesting < value.nesting := by
  cases value with
  | object members =>
      rw [member, member?] at h ⊢
      cases hlookup : members.lookup key with
      | none => simp [hlookup, isNull] at h
      | some v =>
          rw [nesting, Option.getD_some]
          exact Nat.lt_succ_of_le (nesting_le_of_lookup hlookup)
  | null | bool _ | number _ | string _ | array _ => simp [member, member?, isNull] at h

end Json

end Attest

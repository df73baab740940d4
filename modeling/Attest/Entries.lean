/-!
Maps as lists of entries. A key that was put in stands once, where it was put in first.
-/

namespace Attest

variable {κ α : Type} [DecidableEq κ]

/-- Puts a value under a key, in the place of the one that was there. -/
def putEntry (key : κ) (value : α) : List (κ × α) → List (κ × α)
  | [] => [(key, value)]
  | (k, old) :: rest => if k = key then (k, value) :: rest else (k, old) :: putEntry key value rest

theorem lookup_cons_eq_ite (key key' : κ) (value : α) (entries : List (κ × α)) :
    ((key, value) :: entries).lookup key' = if key = key' then some value else entries.lookup key' := by
  rw [List.lookup_cons]
  by_cases h : key = key'
  · rw [if_pos h, beq_iff_eq.2 h.symm]
  · rw [if_neg h, beq_false_of_ne (Ne.symm h)]

theorem lookup_putEntry (key key' : κ) (value : α) (entries : List (κ × α)) :
    (putEntry key value entries).lookup key' = if key = key' then some value else entries.lookup key' := by
  induction entries with
  | nil => exact lookup_cons_eq_ite key key' value []
  | cons entry rest ih =>
      obtain ⟨k, old⟩ := entry
      rw [putEntry]
      by_cases hk : k = key
      · rw [if_pos hk, hk, lookup_cons_eq_ite, lookup_cons_eq_ite]
        split <;> rfl
      · rw [if_neg hk, lookup_cons_eq_ite, lookup_cons_eq_ite, ih]
        by_cases h : k = key'
        · rw [if_pos h, if_neg (fun heq => hk (h.trans heq.symm)), if_pos h]
        · rw [if_neg h, if_neg h]

end Attest

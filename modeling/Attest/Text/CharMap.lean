/-!
Maps from code points as arrays that are ordered by them.
-/

namespace Attest

structure CharMap (α : Type) where
  entries : Array (Nat × α)

namespace CharMap

/-- The map of a list that is ordered by its code points. -/
def ofList (entries : List (Nat × α)) : CharMap α :=
  ⟨entries.toArray⟩

/-- Looks for a code point between two places of the array. -/
def findBetween (entries : Array (Nat × α)) (code lo hi : Nat) : Option α :=
  if _h : lo < hi then
    let mid := (lo + hi) / 2
    match entries[mid]? with
    | none => none
    | some (key, value) =>
        if key = code then some value
        else if key < code then findBetween entries code (mid + 1) hi
        else findBetween entries code lo mid
  else none
termination_by hi - lo

def find? (m : CharMap α) (code : Nat) : Option α :=
  findBetween m.entries code 0 m.entries.size

end CharMap

end Attest

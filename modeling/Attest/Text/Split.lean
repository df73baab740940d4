/-!
Cutting lists at a separator. A list with `n` separators has `n + 1` pieces, and joining the pieces gives
the list back.
-/

namespace Attest

/-- The pieces between separators, empty pieces included. -/
def splitAtEach [DecidableEq α] (sep : α) : List α → List (List α)
  | [] => [[]]
  | a :: rest =>
      if a = sep then [] :: splitAtEach sep rest
      else
        match splitAtEach sep rest with
        | [] => [[a]]
        | piece :: pieces => (a :: piece) :: pieces

/-- What stands before and after the first separator, if there is one. -/
def splitAtFirst (isSeparator : α → Bool) : List α → Option (List α × List α)
  | [] => none
  | a :: rest =>
      if isSeparator a then some ([], rest)
      else (splitAtFirst isSeparator rest).map fun (before, after) => (a :: before, after)

theorem splitAtEach_ne_nil [DecidableEq α] (sep : α) (as : List α) : splitAtEach sep as ≠ [] := by
  cases as with
  | nil => simp [splitAtEach]
  | cons a rest =>
      simp only [splitAtEach]
      split
      · simp
      · split <;> simp

end Attest

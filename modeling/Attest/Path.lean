/-!
Locations inside a payload as they are written in a report: field names joined by points, list positions
in brackets, the payload itself as the empty text.
-/

namespace Attest

structure Path where
  text : String
  deriving DecidableEq, Repr

namespace Path

def root : Path :=
  ⟨""⟩

def isRoot (p : Path) : Bool :=
  p.text.isEmpty

/-- The location of a field of the object at `p`. -/
def field (p : Path) (name : String) : Path :=
  if p.isRoot then ⟨name⟩ else ⟨p.text ++ "." ++ name⟩

/-- The location of an element of the list at `p`. -/
def index (p : Path) (position : Nat) : Path :=
  ⟨p.text ++ "[" ++ toString position ++ "]"⟩

end Path

end Attest

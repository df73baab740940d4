import Attest.Pattern.Hazard
import Attest.Regex.Program

/-!
Vetting patterns, and a store of those that were accepted. A store changes no answer: the limit on the length is
looked at before the store, and nothing else about a pattern depends on the limit.
-/

namespace Attest.Pattern

/-- How long a pattern may be when nothing else is said. -/
def defaultLimit : Nat := 10000

structure Vetted where
  regex : Regex
  warning : Option Warning

def checkLength (limit : Nat) (pattern : String) : Except Rejection Unit :=
  if pattern.length > limit then .error (.tooLong pattern.length limit) else .ok ()

/-- Reads a pattern, looks for hazards, and only then asks for what it matches. -/
def vetAnyLength (pattern : String) : Except Rejection Vetted :=
  match Regex.Ast.read? pattern with
  | none => .error .malformed
  | some ast => do
      let warning ← inspect (ast.outline pattern)
      match Regex.ofAst? pattern ast with
      | none => .error .malformed
      | some regex => pure ⟨regex, warning⟩

def vet (limit : Nat) (pattern : String) : Except Rejection Vetted := do
  checkLength limit pattern
  vetAnyLength pattern

end Attest.Pattern

namespace Attest

/-- The patterns that were accepted, each once, the newest first. -/
structure PatternStore where
  entries : List (String × Pattern.Vetted)

namespace PatternStore

open Pattern

def empty : PatternStore :=
  ⟨[]⟩

def contains (store : PatternStore) (pattern : String) : Bool :=
  (store.entries.lookup pattern).isSome

def size (store : PatternStore) : Nat :=
  store.entries.length

def isEmpty (store : PatternStore) : Bool :=
  store.entries.isEmpty

/-- What is known of a pattern, or what vetting it says; an accepted one is kept. -/
def vet (store : PatternStore) (limit : Nat) (pattern : String) :
    Except Rejection Vetted × PatternStore :=
  match checkLength limit pattern with
  | .error r => (.error r, store)
  | .ok () =>
      match store.entries.lookup pattern with
      | some vetted => (.ok vetted, store)
      | none =>
          match vetAnyLength pattern with
          | .error r => (.error r, store)
          | .ok vetted => (.ok vetted, ⟨(pattern, vetted) :: store.entries⟩)

end PatternStore

end Attest

import Attest.Text.Blank
import Attest.Text.CharSet

/-!
The place in a pattern up to which it has been read. In a verbose part of a pattern blanks and comments are
passed over, and that may happen between nearly any two characters, inside escapes and counts too.
-/

namespace Attest.Regex

structure Scanner where
  rest : List Char
  position : Nat
  verbose : Bool
  /-- The names of the groups so far. -/
  groupNames : List String

namespace Scanner

def ofString (pattern : String) : Scanner :=
  ⟨pattern.toList, 0, false, []⟩

/-- Past the current character. -/
def bump (s : Scanner) : Scanner :=
  match s.rest with
  | [] => s
  | _ :: rest => { s with rest := rest, position := s.position + 1 }

/-- Past blanks and comments; a comment runs from a `#` to the end of its line. -/
def passBlanks : Bool → List Char → Nat → List Char × Nat
  | _, [], n => ([], n)
  | false, c :: cs, n =>
      if isBlank c then passBlanks false cs (n + 1)
      else if c = '#' then passBlanks true cs (n + 1)
      else (c :: cs, n)
  | true, c :: cs, n => passBlanks (c != '\n') cs (n + 1)

/-- Past blanks and comments where they do not count. -/
def skip (s : Scanner) : Scanner :=
  if s.verbose then
    let (rest, position) := passBlanks false s.rest s.position
    { s with rest := rest, position := position }
  else s

/-- Past the current character and what does not count behind it. -/
def advance (s : Scanner) : Scanner :=
  s.bump.skip

theorem length_passBlanks (b : Bool) (cs : List Char) (n : Nat) :
    (passBlanks b cs n).1.length ≤ cs.length := by
  induction cs generalizing b n with
  | nil => simp [passBlanks]
  | cons c cs ih =>
      cases b with
      | false =>
          simp only [passBlanks]
          split
          · exact Nat.le_succ_of_le (ih _ _)
          · split
            · exact Nat.le_succ_of_le (ih _ _)
            · exact Nat.le_refl _
      | true => exact Nat.le_succ_of_le (ih _ _)

theorem length_skip (s : Scanner) : s.skip.rest.length ≤ s.rest.length := by
  unfold skip
  split
  · exact length_passBlanks ..
  · exact Nat.le_refl _

theorem length_advance {s : Scanner} {c : Char} {cs : List Char} (h : s.rest = c :: cs) :
    s.advance.rest.length < s.rest.length := by
  have : s.bump.rest = cs := by simp [bump, h]
  have := length_skip s.bump
  simp_all only [advance, List.length_cons]
  omega

/-- Takes characters as long as they satisfy `p`, whatever does not count between them. -/
def takeSpaced (p : Char → Bool) (s : Scanner) : List Char × Scanner :=
  match _h : s.rest with
  | c :: _ =>
      if p c then
        let (cs, t) := takeSpaced p s.advance
        (c :: cs, t)
      else ([], s)
  | [] => ([], s)
termination_by s.rest.length
decreasing_by exact length_advance ‹_›

/-- Takes characters as long as they satisfy `p`. -/
def take (p : Char → Bool) (s : Scanner) : List Char × Scanner :=
  let (cs, rest) := s.rest.span p
  (cs, { s with rest := rest, position := s.position + cs.length })

def drop (n : Nat) (s : Scanner) : Scanner :=
  { s with rest := s.rest.drop n, position := s.position + n }

/-- The scanner behind a given text, if that comes next. -/
def past? (text : String) (s : Scanner) : Option Scanner :=
  if text.toList.isPrefixOf s.rest then some (s.drop text.length) else none

/-- The character behind the current one, looking in a verbose part past blanks and past the sign that begins
a comment; if nothing else follows, past nothing. -/
def peekSpaced (s : Scanner) : Option Char :=
  match s.rest with
  | [] => none
  | _ :: rest => if s.verbose then (look false rest).or rest.head? else rest.head?
where
  look : Bool → List Char → Option Char
    | _, [] => none
    | inComment, c :: cs =>
        if isBlank c then look inComment cs
        else if c = '#' ∧ !inComment then look true cs
        else some c

end Scanner

end Attest.Regex

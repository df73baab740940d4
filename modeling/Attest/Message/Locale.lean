import Attest.Text.Blank

/-!
Locale tags. Tags that differ only in blanks around them, in underscores for hyphens or in the case of
ASCII letters are one locale.
-/

namespace Attest

structure Locale where
  tag : String
  deriving DecidableEq, Repr

namespace Locale

def normalizeChar (c : Char) : Char :=
  if c = '_' then '-' else c.toLower

def normalize (tag : String) : String :=
  String.ofList ((trimBlanks tag.toList).map normalizeChar)

def ofTag (tag : String) : Locale :=
  ⟨normalize tag⟩

def default : Locale :=
  ⟨"en"⟩

instance : Inhabited Locale := ⟨default⟩

end Locale

end Attest

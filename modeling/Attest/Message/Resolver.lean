import Attest.Activity
import Attest.Entries
import Attest.Message.Catalog
import Attest.Message.Locale
import Attest.Message.Template

/-!
Where messages come from. A resolver turns a key and its arguments into a text for a locale, and may take
its time over it; the bundled one looks into overrides and then into the built-in tables of exactly that
locale, and falls back on the key itself.
-/

namespace Attest

abbrev Resolver := String → List String → Locale → Activity String

/-- The bundled messages with what was put over them, a table for each locale that anything was put over. -/
structure MessageBundle where
  overrides : List (Locale × Catalog.Table)
  deriving DecidableEq, Repr

namespace MessageBundle

def standard : MessageBundle :=
  ⟨[]⟩

/-- The table that was put over the messages of a locale, an empty one if nothing was. -/
def overridesOf (b : MessageBundle) (locale : Locale) : Catalog.Table :=
  (b.overrides.lookup locale).getD []

/-- Puts a template over a message, in the place of one that was put over it before. -/
def override (b : MessageBundle) (locale : Locale) (key template : String) : MessageBundle :=
  ⟨putEntry locale (putEntry key template (b.overridesOf locale)) b.overrides⟩

/-- The tags of the built-in tables. -/
def locales : List String :=
  Catalog.tables.map (·.1)

def overridden? (b : MessageBundle) (key : String) (locale : Locale) : Option String :=
  (b.overrides.lookup locale).bind fun table => table.lookup key

def builtIn? (key : String) (locale : Locale) : Option String :=
  (Catalog.tables.lookup locale.tag).bind fun table => table.lookup key

def template (b : MessageBundle) (key : String) (locale : Locale) : String :=
  ((b.overridden? key locale).or (builtIn? key locale)).getD key

def text (b : MessageBundle) (key : String) (args : List String) (locale : Locale) : String :=
  Template.render (b.template key locale) args

/-- The bundle as a resolver, which never pauses. -/
def resolver (b : MessageBundle) : Resolver := fun key args locale =>
  .done (b.text key args locale)

end MessageBundle

end Attest

import Attest.Entries
import Attest.Json.Decode
import Attest.Json.Text

/-!
Reports: the messages of a payload grouped by path, the paths in order of their first message and the
messages of a path in the order in which they arose.
-/

namespace Attest

structure Report where
  entries : List (String × List String)
  deriving DecidableEq, Repr

namespace Report

def empty : Report :=
  ⟨[]⟩

/-- Adds messages to the entry of a path, a new one at the end when the path has none. -/
def extendEntries (path : String) (messages : List String) :
    List (String × List String) → List (String × List String)
  | [] => [(path, messages)]
  | (p, ms) :: rest =>
      if p = path then (p, ms ++ messages) :: rest else (p, ms) :: extendEntries path messages rest

def push (r : Report) (path message : String) : Report :=
  ⟨extendEntries path [message] r.entries⟩

/-- Adds the messages of a path; no messages leave no trace. -/
def extend (r : Report) (path : String) (messages : List String) : Report :=
  if messages.isEmpty then r else ⟨extendEntries path messages r.entries⟩

/-- The entries of `s` after those of `r`. -/
def merge (r s : Report) : Report :=
  s.entries.foldl (fun r (path, messages) => r.extend path messages) r

def ofList (messages : List (String × String)) : Report :=
  messages.foldl (fun r (path, message) => r.push path message) empty

def get? (r : Report) (path : String) : Option (List String) :=
  r.entries.lookup path

def contains (r : Report) (path : String) : Bool :=
  (r.get? path).isSome

def paths (r : Report) : List String :=
  r.entries.map (·.1)

def size (r : Report) : Nat :=
  r.entries.length

def messageCount (r : Report) : Nat :=
  (r.entries.map (·.2.length)).foldr (· + ·) 0

def isEmpty (r : Report) : Bool :=
  r.entries.isEmpty

/-- The report in one line. -/
def text (r : Report) : String :=
  "; ".intercalate (r.entries.map fun (path, messages) => path ++ ": " ++ ", ".intercalate messages)

/-! ### As a document -/

/-- An object whose members are the entries in their own order. -/
def render (r : Report) : List Char :=
  Json.renderFields (r.entries.map fun (path, messages) => (path, (Json.array (messages.map .string)).render))

def document (r : Report) : String :=
  String.ofList r.render

def decoder : Decoder Report := fun depth d => do
  let members ← Decoder.members (Decoder.list Decoder.string) depth d
  pure ⟨members.foldl (fun es (path, messages) => putEntry path messages es) []⟩

def ofDocument (text : String) : Except Fault Report :=
  Decoder.decodeText decoder text

end Report

end Attest

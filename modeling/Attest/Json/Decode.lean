import Attest.Json.Draft

/-!
Decoders take a document of an expected shape off a draft, from left to right, and stop at the first fault.
Every decoder is given the number of containers that may still be opened below it; `nesting` is the
number for a whole document. Members that a record does not know are skipped, and skipping looks at
nothing but the grammar.
-/

namespace Attest

/-- Reads a value of the given shape, opening at most that many containers inside each other. -/
abbrev Decoder (α : Type) := Nat → Draft → Except Fault α

namespace Decoder

/-- How many containers may lie inside each other in a document. -/
def nesting : Nat := 127

/-- The fault of finding `d` where something else was expected. -/
def unexpected (d : Draft) : Fault :=
  match d with
  | .broken f => f
  | .unreadable => .malformed
  | _ => .misfit

/-- The fault with which a container ended, if it did not end properly. -/
def finish (ending : Option Fault) : Except Fault Unit :=
  match ending with
  | none => .ok ()
  | some f => .error f

mutual

/-- Passes over a value without reading it. -/
def skip : Draft → Except Fault Unit
  | .broken f => .error f
  | .array items ending => do skipItems items; finish ending
  | .object members ending => do skipMembers members; finish ending
  | _ => .ok ()
termination_by structural d => d

def skipItems : List Draft → Except Fault Unit
  | [] => .ok ()
  | d :: rest => do skip d; skipItems rest
termination_by structural ds => ds

def skipMembers : List (String × Draft) → Except Fault Unit
  | [] => .ok ()
  | m :: rest => do skipMember m; skipMembers rest
termination_by structural ms => ms

def skipMember : String × Draft → Except Fault Unit
  | (_, d) => skip d
termination_by structural m => m

end

mutual

/-- Any JSON value. -/
def json : Nat → Draft → Except Fault Json
  | _, .null => .ok .null
  | _, .bool b => .ok (.bool b)
  | _, .number n => .ok (.number n)
  | _, .string s => .ok (.string s)
  | _, .unreadable => .error .malformed
  | _, .broken f => .error f
  | 0, .array _ _ => .error .malformed
  | depth + 1, .array items ending => do
      let items ← jsonItems depth items
      finish ending
      pure (.array items)
  | 0, .object _ _ => .error .malformed
  | depth + 1, .object members ending => do
      let members ← jsonMembers depth members
      finish ending
      pure (.ofMembers members)
termination_by structural _ d => d

def jsonItems : Nat → List Draft → Except Fault (List Json)
  | _, [] => .ok []
  | depth, d :: rest => do
      let v ← json depth d
      let vs ← jsonItems depth rest
      pure (v :: vs)
termination_by structural _ ds => ds

def jsonMembers : Nat → List (String × Draft) → Except Fault (List (String × Json))
  | _, [] => .ok []
  | depth, m :: rest => do
      let kv ← jsonMember depth m
      let kvs ← jsonMembers depth rest
      pure (kv :: kvs)
termination_by structural _ ms => ms

def jsonMember : Nat → String × Draft → Except Fault (String × Json)
  | depth, (key, d) => do
      let v ← json depth d
      pure (key, v)
termination_by structural _ m => m

end

/-! ### Scalars -/

def string : Decoder String
  | _, .string s => .ok s
  | _, d => .error (unexpected d)

def bool : Decoder Bool
  | _, .bool b => .ok b
  | _, d => .error (unexpected d)

/-- An integer literal between two bounds. -/
def integer (least greatest : Int) : Decoder Int
  | _, .number (.int n) => if least ≤ n ∧ n ≤ greatest then .ok n else .error .misfit
  | _, d => .error (unexpected d)

/-- A natural number below `2 ^ bits`. -/
def natural (bits : Nat) : Decoder Nat := fun depth d =>
  (integer 0 (Int.pow 2 bits - 1) depth d).map Int.toNat

/-- Any number, rounded to binary. -/
def double : Decoder Double
  | _, .number n => .ok n.toDouble
  | _, d => .error (unexpected d)

/-- Null, or a value of the given shape. -/
def optional (value : Decoder α) : Decoder (Option α)
  | _, .null => .ok none
  | depth, d => (value depth d).map some

/-! ### Containers -/

def list (item : Decoder α) : Decoder (List α)
  | 0, .array _ _ => .error .malformed
  | depth + 1, .array items ending => do
      let values ← items.mapM (item depth)
      finish ending
      pure values
  | _, d => .error (unexpected d)

/-- The members of an object in the order of the text, repeated keys included. -/
def members (value : Decoder α) : Decoder (List (String × α))
  | 0, .object _ _ => .error .malformed
  | depth + 1, .object ms ending => do
      let kvs ← ms.mapM fun (key, d) => do
        let v ← value depth d
        pure (key, v)
      finish ending
      pure kvs
  | _, d => .error (unexpected d)

/-- Takes the items of an array into consecutive fields. An item too many is a fault of the text. -/
def intoFields (depth : Nat) : List (σ → Nat → Draft → Except Fault σ) → σ → List Draft →
    Option Fault → Except Fault σ
  | _, s, [], ending => do finish ending; pure s
  | [], _, _ :: _, _ => .error .malformed
  | field :: fields, s, d :: rest, ending => do
      let s ← field s depth d
      intoFields depth fields s rest ending

/-- A record with named fields, each of which takes its value into the state read so far; a record may also
be written as the array of its fields. -/
def record (fields : List (String × (σ → Nat → Draft → Except Fault σ))) (start : σ) : Decoder σ
  | 0, .array _ _ => .error .malformed
  | depth + 1, .array items ending => intoFields depth (fields.map (·.2)) start items ending
  | 0, .object _ _ => .error .malformed
  | depth + 1, .object ms ending => do
      let s ← ms.foldlM (fun s (key, d) =>
        match fields.lookup key with
        | some field => field s depth d
        | none => do skip d; pure s) start
      finish ending
      pure s
  | _, d => .error (unexpected d)

/-- Fills an empty field; a field that was read before must not occur again. -/
def once (value : Decoder α) (old : Option α) (depth : Nat) (d : Draft) : Except Fault (Option α) :=
  match old with
  | some _ => .error .misfit
  | none => (value depth d).map some

/-- The value of a field that has no default. -/
def required (field : Option α) : Except Fault α :=
  match field with
  | some a => .ok a
  | none => .error .misfit

/-- One of several words, written as a string or as an object whose only member has the word as its key
and null as its value. A value that is neither is a fault of the text. -/
def word (find : String → Option α) : Decoder α
  | _, .string s => required (find s)
  | 0, .object _ _ => .error .malformed
  | _ + 1, .object ((key, d) :: rest) ending => do
      let a ← required (find key)
      match d with
      | .null => pure ()
      | d => .error (unexpected d)
      match rest, ending with
      | [], none => pure a
      | [], some f => .error f
      | _ :: _, _ => .error .malformed
  | _ + 1, .object [] ending => .error (ending.getD .malformed)
  | _, .broken f => .error f
  | _, _ => .error .malformed

/-- A whole text of the given shape. -/
def decodeText (value : Decoder α) (text : String) : Except Fault α := do
  let (d, trailing) := Draft.ofText text
  let a ← value nesting d
  finish trailing
  pure a

/-- A value that was read before; whatever is wrong with it is its shape. -/
def decodeValue (value : Decoder α) (v : Json) : Except Fault α :=
  (value nesting (Draft.ofJson v)).mapError fun _ => .misfit

end Decoder

end Attest

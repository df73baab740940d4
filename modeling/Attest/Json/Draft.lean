import Attest.Json.Basic
import Attest.Number.Literal

/-!
Documents as far as their text could be read. Reading never fails as a whole: where the text stops being
JSON the tree holds a `broken` leaf or a container with an `ending`, and what reads the tree from left to
right meets a misplaced value and a fault of the text in the order in which the text holds them.
-/

namespace Attest

/-- What can be wrong with a document: its text is no JSON, ends too early, or is JSON of another shape
than the one that was asked for. -/
inductive Fault
  | malformed
  | cutOff
  | misfit
  deriving DecidableEq, Repr

inductive Draft
  | null
  | bool (value : Bool)
  | number (value : Number)
  | string (value : String)
  /-- Correct by the grammar, but a number beyond the finite ones or half a surrogate pair. -/
  | unreadable
  | array (items : List Draft) (ending : Option Fault)
  | object (members : List (String × Draft)) (ending : Option Fault)
  | broken (fault : Fault)
  deriving Repr, Inhabited

namespace Draft

/-! ### Words and blanks -/

def isBlank (c : Char) : Bool :=
  c = ' ' || c = '\t' || c = '\n' || c = '\r'

def skipBlanks (cs : List Char) : List Char :=
  cs.dropWhile isBlank

/-- Takes the rest of a fixed word off the text. -/
def readWord : List Char → List Char → Except Fault (List Char)
  | [], cs => .ok cs
  | _ :: _, [] => .error .cutOff
  | w :: ws, c :: cs => if w = c then readWord ws cs else .error .malformed

/-! ### Numbers -/

/-- A nonempty run of digits. -/
def readDigits (cs : List Char) : Except Fault (List Char × List Char) :=
  match cs with
  | [] => .error .cutOff
  | c :: _ => if c.isDigit then .ok (cs.span Char.isDigit) else .error .malformed

def readWhole (cs : List Char) : Except Fault (List Char × List Char) :=
  match cs with
  | '0' :: rest =>
      match rest with
      | c :: _ => if c.isDigit then .error .malformed else .ok (['0'], rest)
      | [] => .ok (['0'], rest)
  | _ => readDigits cs

def readFraction (cs : List Char) : Except Fault (Option (List Char) × List Char) :=
  match cs with
  | '.' :: rest => (readDigits rest).map fun (ds, rest) => (some ds, rest)
  | _ => .ok (none, cs)

def readExponent (cs : List Char) : Except Fault (Option (Bool × List Char) × List Char) :=
  match cs with
  | c :: rest =>
      if c = 'e' ∨ c = 'E' then
        let (minus, rest) := NumberLiteral.splitSign rest
        (readDigits rest).map fun (ds, rest) => (some (minus, ds), rest)
      else
        .ok (none, cs)
  | [] => .ok (none, cs)

def readNumber (cs : List Char) : Except Fault (NumberLiteral × List Char) := do
  let (negative, cs) := match cs with
    | '-' :: rest => (true, rest)
    | _ => (false, cs)
  let (whole, cs) ← readWhole cs
  let (fraction, cs) ← readFraction cs
  let (exponent, cs) ← readExponent cs
  pure (⟨negative, whole, fraction, exponent⟩, cs)

/-! ### Strings -/

def hexValue? (c : Char) : Option Nat :=
  if c.isDigit then some (c.toNat - '0'.toNat)
  else if 'a' ≤ c ∧ c ≤ 'f' then some (c.toNat - 'a'.toNat + 10)
  else if 'A' ≤ c ∧ c ≤ 'F' then some (c.toNat - 'A'.toNat + 10)
  else none

/-- The bytes of a text in UTF-8. -/
def byteCount (cs : List Char) : Nat :=
  (cs.map Char.utf8Size).foldr (· + ·) 0

/-- The four hexadecimal digits of an escape. Four bytes of text have to be left for them. -/
def readHex (cs : List Char) : Except Fault (Nat × List Char) :=
  match cs with
  | a :: b :: c :: d :: rest =>
      match hexValue? a, hexValue? b, hexValue? c, hexValue? d with
      | some a, some b, some c, some d => .ok (((a * 16 + b) * 16 + c) * 16 + d, rest)
      | _, _, _, _ => .error .malformed
  | _ => .error (if byteCount cs < 4 then .cutOff else .malformed)

/-- The character of an escape after its `\u`; nothing for a surrogate that is not the first of a pair. -/
def readUnicode (cs : List Char) : Except Fault (Option Char × List Char) := do
  let (n, rest) ← readHex cs
  if n < 0xD800 ∨ 0xDFFF < n then
    pure (some (Char.ofNat n), rest)
  else if 0xDC00 ≤ n then
    pure (none, rest)
  else
    match rest with
    | [] => .error .cutOff
    | '\\' :: [] => .error .cutOff
    | '\\' :: 'u' :: more => do
        let (m, after) ← readHex more
        if 0xDC00 ≤ m ∧ m ≤ 0xDFFF then
          pure (some (Char.ofNat ((n - 0xD800) * 0x400 + (m - 0xDC00) + 0x10000)), after)
        else
          pure (none, rest)
    | _ => pure (none, rest)

def simpleEscape? (c : Char) : Option Char :=
  if c = '"' ∨ c = '\\' ∨ c = '/' then some c
  else if c = 'b' then some '\x08'
  else if c = 'f' then some '\x0c'
  else if c = 'n' then some '\n'
  else if c = 'r' then some '\r'
  else if c = 't' then some '\t'
  else none

/-- The rest of a string after its opening quote; nothing as its value when an escape in it has none. A fault
after such an escape counts as malformed text, since a reader stops at the escape. The first argument
bounds the number of steps; one more than the length of the text is enough. -/
def readString : Nat → List Char → Except Fault (Option (List Char) × List Char)
  | 0, _ => .error .cutOff
  | _ + 1, [] => .error .cutOff
  | fuel + 1, c :: cs =>
      if c = '"' then .ok (some [], cs)
      else if c = '\\' then
        match cs with
        | [] => .error .cutOff
        | 'u' :: rest => do
            let (decoded, rest) ← readUnicode rest
            match decoded with
            | some d => (readString fuel rest).map fun (s, rest) => (s.map (d :: ·), rest)
            | none =>
                match readString fuel rest with
                | .ok (_, rest) => .ok (none, rest)
                | .error _ => .error .malformed
        | e :: rest =>
            match simpleEscape? e with
            | some d => (readString fuel rest).map fun (s, rest) => (s.map (d :: ·), rest)
            | none => .error .malformed
      else if c.toNat < 32 then .error .malformed
      else (readString fuel cs).map fun (s, rest) => (s.map (c :: ·), rest)

/-! ### Values -/

/-- A leaf and the text after it, or the fault in its place. -/
def leaf (read : Except Fault (Draft × List Char)) : Draft × Option (List Char) :=
  match read with
  | .ok (d, rest) => (d, some rest)
  | .error f => (.broken f, none)

/-- The items or members read so far, how the container ended, and the text after it; no text when
reading stopped inside. -/
abbrev Contents (α : Type) := List α × Option Fault × Option (List Char)

mutual

/-- The value at the front of the text. The first argument bounds the number of steps, the characters of a string
and the levels of nesting among them; one more than twice the length of the text is enough. -/
def readValue : Nat → List Char → Draft × Option (List Char)
  | 0, _ => (.broken .cutOff, none)
  | fuel + 1, cs =>
      match skipBlanks cs with
      | [] => (.broken .cutOff, none)
      | c :: rest =>
          if c = 'n' then leaf ((readWord ['u', 'l', 'l'] rest).map (.null, ·))
          else if c = 't' then leaf ((readWord ['r', 'u', 'e'] rest).map (.bool true, ·))
          else if c = 'f' then leaf ((readWord ['a', 'l', 's', 'e'] rest).map (.bool false, ·))
          else if c = '-' ∨ c.isDigit then
            leaf ((readNumber (c :: rest)).map fun (l, rest) =>
              (match l.value? with | some n => .number n | none => .unreadable, rest))
          else if c = '"' then
            leaf ((readString fuel rest).map fun (s, rest) =>
              (match s with | some s => .string (String.ofList s) | none => .unreadable, rest))
          else if c = '[' then
            match skipBlanks rest with
            | ']' :: rest => (.array [] none, some rest)
            | [] => (.array [] (some .cutOff), none)
            | rest =>
                let (items, ending, rest) := readItems fuel rest
                (.array items ending, rest)
          else if c = '{' then
            match skipBlanks rest with
            | '}' :: rest => (.object [] none, some rest)
            | [] => (.object [] (some .cutOff), none)
            | rest =>
                let (members, ending, rest) := readMembers fuel rest
                (.object members ending, rest)
          else (.broken .malformed, none)

/-- The items of an array from the first or from the one after a comma. A comma without an item after it
leaves a broken item. -/
def readItems : Nat → List Char → Contents Draft
  | 0, _ => ([], some .cutOff, none)
  | fuel + 1, cs =>
      match readValue fuel cs with
      | (item, none) => ([item], none, none)
      | (item, some rest) =>
          match skipBlanks rest with
          | ']' :: rest => ([item], none, some rest)
          | ',' :: rest =>
              match skipBlanks rest with
              | ']' :: _ => ([item, .broken .malformed], none, none)
              | rest =>
                  let (items, ending, rest) := readItems fuel rest
                  (item :: items, ending, rest)
          | [] => ([item], some .cutOff, none)
          | _ => ([item], some .malformed, none)

/-- The members of an object from the first or from the one after a comma. -/
def readMembers : Nat → List Char → Contents (String × Draft)
  | 0, _ => ([], some .cutOff, none)
  | fuel + 1, cs =>
      match skipBlanks cs with
      | '"' :: rest =>
          match readString fuel rest with
          | .error f => ([], some f, none)
          | .ok (none, _) => ([], some .malformed, none)
          | .ok (some key, rest) =>
              let key := String.ofList key
              match skipBlanks rest with
              | ':' :: rest =>
                  match readValue fuel rest with
                  | (value, none) => ([(key, value)], none, none)
                  | (value, some rest) =>
                      match skipBlanks rest with
                      | '}' :: rest => ([(key, value)], none, some rest)
                      | ',' :: rest =>
                          match skipBlanks rest with
                          | [] => ([(key, value)], some .cutOff, none)
                          | rest =>
                              let (members, ending, rest) := readMembers fuel rest
                              ((key, value) :: members, ending, rest)
                      | [] => ([(key, value)], some .cutOff, none)
                      | _ => ([(key, value)], some .malformed, none)
              | [] => ([(key, .broken .cutOff)], none, none)
              | _ => ([(key, .broken .malformed)], none, none)
      | _ => ([], some .malformed, none)

end

/-- The document of a text, and the fault of what follows it. -/
def ofText (text : String) : Draft × Option Fault :=
  let cs := text.toList
  match readValue (2 * cs.length + 1) cs with
  | (d, none) => (d, none)
  | (d, some rest) => (d, if (skipBlanks rest).isEmpty then none else some .malformed)

/-! ### From values -/

mutual

/-- The document of a value. -/
def ofJson : Json → Draft
  | .null => .null
  | .bool b => .bool b
  | .number n => .number n
  | .string s => .string s
  | .array items => .array (ofItems items) none
  | .object members => .object (ofMembers members) none
termination_by structural v => v

def ofItems : List Json → List Draft
  | [] => []
  | v :: rest => ofJson v :: ofItems rest
termination_by structural vs => vs

def ofMembers : List (String × Json) → List (String × Draft)
  | [] => []
  | m :: rest => ofMember m :: ofMembers rest
termination_by structural ms => ms

def ofMember : String × Json → String × Draft
  | (key, v) => (key, ofJson v)
termination_by structural m => m

end

end Draft

end Attest

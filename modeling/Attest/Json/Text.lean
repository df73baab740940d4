import Attest.Json.Basic

/-!
The compact text of a JSON value: no blanks, members in key order, characters beyond ASCII as they are,
and only quotes, backslashes and control characters escaped.
-/

namespace Attest

namespace Json

/-- The last two digits of a `\u00xx` escape. -/
def hexPair (n : Nat) : List Char :=
  [Nat.digitChar (n / 16), Nat.digitChar (n % 16)]

/-- A character as it stands inside a quoted string. -/
def escape (c : Char) : List Char :=
  if c = '"' then ['\\', '"']
  else if c = '\\' then ['\\', '\\']
  else if c = '\x08' then ['\\', 'b']
  else if c = '\t' then ['\\', 't']
  else if c = '\n' then ['\\', 'n']
  else if c = '\x0c' then ['\\', 'f']
  else if c = '\r' then ['\\', 'r']
  else if c.toNat < 32 then ['\\', 'u', '0', '0'] ++ hexPair c.toNat
  else [c]

def quote (s : String) : List Char :=
  '"' :: s.toList.flatMap escape ++ ['"']

/-- Texts joined by commas. -/
def commaSeparated (texts : List (List Char)) : List Char :=
  [','].intercalate texts

mutual

def render : Json → List Char
  | .null => ['n', 'u', 'l', 'l']
  | .bool true => ['t', 'r', 'u', 'e']
  | .bool false => ['f', 'a', 'l', 's', 'e']
  | .number n => n.text
  | .string s => quote s
  | .array items => '[' :: commaSeparated (renderItems items) ++ [']']
  | .object members => '{' :: commaSeparated (renderMembers members) ++ ['}']
termination_by structural v => v

def renderItems : List Json → List (List Char)
  | [] => []
  | v :: rest => v.render :: renderItems rest
termination_by structural vs => vs

def renderMembers : List (String × Json) → List (List Char)
  | [] => []
  | m :: rest => renderMember m :: renderMembers rest
termination_by structural ms => ms

def renderMember : String × Json → List Char
  | (key, v) => quote key ++ ':' :: v.render
termination_by structural m => m

end

/-- An object with members in the given order, their values rendered already. -/
def renderFields (fields : List (String × List Char)) : List Char :=
  '{' :: commaSeparated (fields.map fun (key, value) => quote key ++ ':' :: value) ++ ['}']

/-- An array of items that are rendered already. -/
def renderList (items : List (List Char)) : List Char :=
  '[' :: commaSeparated items ++ [']']

def text (v : Json) : String :=
  String.ofList v.render

/-- The value as it is quoted in messages: a string bare, anything else as text. -/
def display : Json → String
  | .string s => s
  | v => v.text

end Json

end Attest

import Attest.Text.Category
import Attest.Text.Property

/-!
Dumps: values as logs show them. Everything is on one line; texts stand between quotes, with escapes for
whatever a reader would not see as a character of its own.
-/

namespace Attest

inductive Dump
  | word (text : String)
  | quoted (text : String)
  | list (items : List Dump)
  | map (entries : List (String × Dump))
  /-- A name with unnamed parts. -/
  | tuple (name : String) (parts : List Dump)
  /-- A name with named parts; not all parts are shown of one that is cut short. -/
  | record (name : String) (parts : List (String × Dump)) (isCut : Bool)
  /-- A value behind its name. -/
  | labelled (name : String) (value : Dump)

namespace Dump

/-! ### Texts -/

/-- The characters that are not to be seen: controls, formats, separators other than the plain blank, and all to
which nothing is assigned. -/
def hiddenSet : CharSet :=
  (categorySet ["C", "Z"]).diff (.range 0x20 0x20)

def escape (c : Char) : List Char :=
  match c with
  | '\x00' => ['\\', '0']
  | '\t' => ['\\', 't']
  | '\n' => ['\\', 'n']
  | '\r' => ['\\', 'r']
  | '"' => ['\\', '"']
  | '\\' => ['\\', '\\']
  | c =>
      if graphemeExtendSet.contains c || hiddenSet.contains c then
        ['\\', 'u', '{'] ++ Nat.toDigits 16 c.toNat ++ ['}']
      else [c]

def quote (s : String) : String :=
  String.ofList ('"' :: s.toList.flatMap escape ++ ['"'])

/-! ### Writing -/

def between (start : String) (parts : List String) (stop : String) : String :=
  start ++ ", ".intercalate parts ++ stop

mutual

def text : Dump → String
  | .word s => s
  | .quoted s => quote s
  | .list items => between "[" (texts items) "]"
  | .map entries => between "\x7b" (entryTexts entries) "\x7d"
  | .tuple name parts => between (name ++ "(") (texts parts) ")"
  | .record name parts isCut =>
      between (name ++ " \x7b ") (partTexts parts ++ if isCut then [".."] else []) " \x7d"
  | .labelled name value => name ++ " " ++ value.text
termination_by structural d => d

def texts : List Dump → List String
  | [] => []
  | d :: rest => d.text :: texts rest
termination_by structural ds => ds

def entryTexts : List (String × Dump) → List String
  | [] => []
  | e :: rest => entryText e :: entryTexts rest
termination_by structural es => es

def entryText : String × Dump → String
  | (key, value) => quote key ++ ": " ++ value.text
termination_by structural e => e

def partTexts : List (String × Dump) → List String
  | [] => []
  | p :: rest => partText p :: partTexts rest
termination_by structural ps => ps

def partText : String × Dump → String
  | (key, value) => key ++ ": " ++ value.text
termination_by structural p => p

end

def ofNat (n : Nat) : Dump :=
  .word (toString n)

def ofBool (b : Bool) : Dump :=
  .word (if b then "true" else "false")

def ofOption (f : α → Dump) : Option α → Dump
  | none => .word "None"
  | some a => .tuple "Some" [f a]

end Dump

end Attest

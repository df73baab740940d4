import Attest.Json.Draft

/-!
Recognition of JSON text inside strings: exactly one value of RFC 8259 between blanks, with a limit on
the nesting of containers and a report of the first character that cannot stand where it stands. The scan
walks the characters that are left; a place in the text is what is left there.
-/

namespace Attest

/-- Why a text is not one JSON value. Offsets count the bytes of the text in UTF-8, and a character is
shown by the first of its bytes. -/
inductive TextDefect
  | empty
  | unexpectedEnd
  | unexpected (offset : Nat) (found : Char)
  | tooDeep (limit : Nat)
  | trailing (offset : Nat)
  deriving DecidableEq, Repr

def TextDefect.message : TextDefect → String
  | .empty => "empty document"
  | .unexpectedEnd => "unexpected end of input"
  | .unexpected offset found => s!"unexpected `{found}` at offset {offset}"
  | .tooDeep limit => s!"nesting exceeds {limit} levels"
  | .trailing offset => s!"trailing characters at offset {offset}"

namespace Json

/-- Where a scan stopped: at the first character left, at the end of the text when none is left, or at a
container too many. -/
inductive Stop
  | before (rest : List Char)
  | tooDeep
  deriving DecidableEq, Repr

/-- The text left after what was scanned. -/
abbrev Scan := Except Stop (List Char)

open Draft (skipBlanks)

def scanWord : List Char → List Char → Scan
  | [], cs => .ok cs
  | _ :: _, [] => .error (.before [])
  | w :: ws, c :: cs => if c = w then scanWord ws cs else .error (.before (c :: cs))

/-- A nonempty run of digits. -/
def scanDigits (cs : List Char) : Scan :=
  match cs with
  | [] => .error (.before [])
  | c :: _ => if c.isDigit then .ok (cs.dropWhile Char.isDigit) else .error (.before cs)

def scanWhole (cs : List Char) : Scan :=
  match cs with
  | '0' :: rest => .ok rest
  | _ => scanDigits cs

def scanFraction (cs : List Char) : Scan :=
  match cs with
  | '.' :: rest => scanDigits rest
  | _ => .ok cs

def dropSign (cs : List Char) : List Char :=
  match cs with
  | c :: rest => if c = '+' ∨ c = '-' then rest else cs
  | [] => []

def scanExponent (cs : List Char) : Scan :=
  match cs with
  | c :: rest => if c = 'e' ∨ c = 'E' then scanDigits (dropSign rest) else .ok cs
  | [] => .ok []

def scanNumber (cs : List Char) : Scan := do
  let cs ← scanWhole (match cs with | '-' :: rest => rest | _ => cs)
  let cs ← scanFraction cs
  scanExponent cs

/-- The given number of hexadecimal digits. -/
def scanHex : Nat → List Char → Scan
  | 0, cs => .ok cs
  | _ + 1, [] => .error (.before [])
  | n + 1, c :: cs => if (Draft.hexValue? c).isSome then scanHex n cs else .error (.before (c :: cs))

def isSimpleEscape (c : Char) : Bool :=
  (Draft.simpleEscape? c).isSome

/-- The rest of a string after its opening quote. -/
def scanString : Nat → List Char → Scan
  | 0, cs => .error (.before cs)
  | _ + 1, [] => .error (.before [])
  | fuel + 1, c :: cs =>
      if c = '"' then .ok cs
      else if c = '\\' then
        match cs with
        | [] => .error (.before [])
        | e :: rest =>
            if isSimpleEscape e then scanString fuel rest
            else if e = 'u' then
              match scanHex 4 rest with
              | .ok rest => scanString fuel rest
              | .error stop => .error stop
            else .error (.before (e :: rest))
      else if c.toNat < 32 then .error (.before (c :: cs))
      else scanString fuel cs

mutual

/-- One value; `depth` is the number of containers around it and `fuel` bounds the number of steps. -/
def scanValue (limit : Nat) : Nat → Nat → List Char → Scan
  | 0, _, cs => .error (.before cs)
  | fuel + 1, depth, cs =>
      match cs with
      | [] => .error (.before [])
      | c :: rest =>
          if c = '{' then
            if limit < depth + 1 then .error .tooDeep
            else
              match skipBlanks rest with
              | '}' :: rest => .ok rest
              | rest => scanMembers limit fuel (depth + 1) rest
          else if c = '[' then
            if limit < depth + 1 then .error .tooDeep
            else
              match skipBlanks rest with
              | ']' :: rest => .ok rest
              | rest => scanItems limit fuel (depth + 1) rest
          else if c = '"' then scanString (rest.length + 1) rest
          else if c = '-' ∨ c.isDigit then scanNumber cs
          else if c = 't' then scanWord ['t', 'r', 'u', 'e'] cs
          else if c = 'f' then scanWord ['f', 'a', 'l', 's', 'e'] cs
          else if c = 'n' then scanWord ['n', 'u', 'l', 'l'] cs
          else .error (.before cs)

/-- The items of an array up to its closing bracket, blanks before the first already skipped. -/
def scanItems (limit : Nat) : Nat → Nat → List Char → Scan
  | 0, _, cs => .error (.before cs)
  | fuel + 1, depth, cs => do
      let rest ← scanValue limit fuel depth cs
      match skipBlanks rest with
      | ',' :: rest => scanItems limit fuel depth (skipBlanks rest)
      | ']' :: rest => .ok rest
      | rest => .error (.before rest)

/-- The members of an object up to its closing brace, blanks before the first already skipped. -/
def scanMembers (limit : Nat) : Nat → Nat → List Char → Scan
  | 0, _, cs => .error (.before cs)
  | fuel + 1, depth, cs =>
      match cs with
      | '"' :: rest => do
          let rest ← scanString (rest.length + 1) rest
          match skipBlanks rest with
          | ':' :: rest => do
              let rest ← scanValue limit fuel depth (skipBlanks rest)
              match skipBlanks rest with
              | ',' :: rest => scanMembers limit fuel depth (skipBlanks rest)
              | '}' :: rest => .ok rest
              | rest => .error (.before rest)
          | rest => .error (.before rest)
      | _ => .error (.before cs)

end

/-- The first byte of a character in UTF-8, as the character of that number. -/
def firstByte (c : Char) : Char :=
  match (String.singleton c).toUTF8.toList with
  | b :: _ => Char.ofNat b.toNat
  | [] => c

/-- Checks that a text is one JSON value whose containers are nested at most `limit` deep. -/
def checkText (text : String) (limit : Nat) : Except TextDefect Unit :=
  let all := text.toList
  let offset (rest : List Char) : Nat := Draft.byteCount all - Draft.byteCount rest
  let start := skipBlanks all
  if start.isEmpty then .error .empty
  else
    match scanValue limit (2 * all.length + 1) 0 start with
    | .error .tooDeep => .error (.tooDeep limit)
    | .error (.before []) => .error .unexpectedEnd
    | .error (.before (c :: rest)) => .error (.unexpected (offset (c :: rest)) (firstByte c))
    | .ok rest =>
        let rest := skipBlanks rest
        if rest.isEmpty then .ok () else .error (.trailing (offset rest))

def isText (text : String) (limit : Nat) : Bool :=
  (checkText text limit).isOk

end Json

end Attest

import Attest.Number.Literal

/-!
Message templates: a number in braces stands for the argument with that number, a doubled brace for a
single one, and every other character for itself.
-/

namespace Attest

namespace Template

/-- Fills a template. The first parameter holds the digits of a placeholder that is still open, last digit
first. Nothing results from a brace that is neither doubled nor part of a placeholder, from anything but
digits in a placeholder, and from a number without an argument. -/
def fill (args : List String) : Option (List Char) → List Char → Option (List Char)
  | none, [] => some []
  | some _, [] => none
  | none, '{' :: '{' :: rest => (fill args none rest).map ('{' :: ·)
  | none, '}' :: '}' :: rest => (fill args none rest).map ('}' :: ·)
  | none, '{' :: rest => fill args (some []) rest
  | none, '}' :: _ => none
  | none, c :: rest => (fill args none rest).map (c :: ·)
  | some digits, c :: rest =>
      if c = '}' then
        if digits.isEmpty then none
        else
          match args[NumberLiteral.natOfDigits digits.reverse]? with
          | some arg => (fill args none rest).map (arg.toList ++ ·)
          | none => none
      else if c.isDigit then fill args (some (c :: digits)) rest
      else none

def interpolate (template : String) (args : List String) : Option String :=
  (fill args none template.toList).map String.ofList

/-- The filled template, or the template itself when it cannot be filled. -/
def render (template : String) (args : List String) : String :=
  (interpolate template args).getD template

end Template

end Attest

import Attest.Format.Email
import Attest.Format.Timestamp
import Attest.Format.Url
import Attest.Format.Uuid
import Attest.Json.Recognizer
import Attest.Number.Digits
import Attest.Pattern.Vetting
import Attest.Rule.Basic
import Attest.Text.Blank
import Attest.Text.LetterCase

/-!
What the rules demand. Each is a property of the value, of the object around it and of the present; a value of
another type than the rule is about never satisfies it.
-/

namespace Attest

/-! ### Texts -/

def isNotBlank (s : String) : Bool :=
  s.toList.any fun c => !isBlank c

/-- No letter is upper case. -/
def isLowercase (s : String) : Bool :=
  s.toList.all fun c => !uppercaseSet.contains c

/-- No letter is lower case. -/
def isUppercase (s : String) : Bool :=
  s.toList.all fun c => !lowercaseSet.contains c

/-- Whether `part` occurs somewhere in a list. -/
def occursIn (part : List Char) : List Char → Bool
  | [] => part.isEmpty
  | c :: cs => part.isPrefixOf (c :: cs) || occursIn part cs

namespace Json

/-! ### Numbers and collections -/

def toInteger? (v : Json) : Option Int :=
  v.number?.bind Number.toInteger?

/-- An integer is a multiple of the divisor, with a quotient that is a 64-bit integer too; nothing is a multiple
of zero. -/
def isDivisibleBy (v : Json) (divisor : Int) : Bool :=
  match v.toInteger? with
  | some n => divisor != 0 && n % divisor == 0 && n / divisor < Int.pow 2 63
  | none => false

def fractionDigits? (v : Json) : Option Nat :=
  v.number?.map Number.fractionDigits

/-- The number of items, of members or of characters. -/
def size? : Json → Option Nat
  | .array items => some items.length
  | .object members => some members.length
  | .string s => some s.length
  | _ => none

/-- An array no two of whose items are written alike. -/
def hasUniqueItems (v : Json) : Bool :=
  match v with
  | .array items => (items.map text).Nodup
  | _ => false

/-- The value is like that of another field of the same object. -/
def equalsField (v parent : Json) (field : String) : Bool :=
  v.alike (parent.member field)

/-- A string that satisfies `p`. -/
def isString (p : String → Bool) : Json → Bool
  | .string s => p s
  | _ => false

/-- A number that satisfies `p` after rounding to binary. -/
def isNumber (p : Double → Bool) : Json → Bool
  | .number n => p n.toDouble
  | _ => false

/-- A string with an instant that satisfies `p`. -/
def isInstant (p : Timestamp → Bool) : Json → Bool :=
  isString fun s => (Timestamp.ofText? s).any p

end Json

namespace Rule

/-- Whether a pattern that is harmless by default matches a part of the text. -/
def matchesPattern (pattern text : String) : Bool :=
  match Pattern.vet Pattern.defaultLimit pattern with
  | .ok vetted => vetted.regex.matchesIn text
  | .error _ => false

/-- Whether a value satisfies the rule, `parent` being the object around it and `now` the present. What a custom
rule demands is not known here, and so nothing satisfies it. -/
def accepts (rule : Rule) (now : Timestamp) (value parent : Json) : Bool :=
  match rule with
  | required => !value.isNull
  | requiredIf field equals => !(parent.member field).alike equals || !value.isNull
  | requiredUnless field equals => (parent.member field).alike equals || !value.isNull
  | requiredWith field => (parent.member field).isNull || !value.isNull
  | requiredWithout field => !(parent.member field).isNull || !value.isNull
  | notBlank => value.isString isNotBlank
  | minLength least => value.isString fun s => least ≤ s.length
  | maxLength most => value.isString fun s => s.length ≤ most
  | length least most => value.isString fun s => least ≤ s.length && s.length ≤ most
  | startsWith start => value.isString fun s => start.toList.isPrefixOf s.toList
  | endsWith ending => value.isString fun s => ending.toList.isSuffixOf s.toList
  | contains part => value.isString fun s => occursIn part.toList s.toList
  | lowercase => value.isString isLowercase
  | uppercase => value.isString isUppercase
  | oneOf choices => choices.any value.alike
  | pattern source => value.isString (matchesPattern source)
  | email => value.isString isEmail
  | url => value.isString isWebUrl
  | uuid => value.isString isUuid
  | min bound => value.isNumber bound.atMost
  | max bound => value.isNumber (·.atMost bound)
  | range least greatest => value.isNumber fun x => least.atMost x && x.atMost greatest
  | positive => value.isNumber (Double.ofInt 0).less
  | negative => value.isNumber (·.less (Double.ofInt 0))
  | even => value.toInteger?.any (· % 2 = 0)
  | odd => value.toInteger?.any (· % 2 ≠ 0)
  | divisibleBy divisor => value.isDivisibleBy divisor
  | decimalPlaces most => value.fractionDigits?.any (· ≤ most)
  | minSize least => value.size?.any (least ≤ ·)
  | maxSize most => value.size?.any (· ≤ most)
  | notEmpty => value.size?.any (0 < ·)
  | uniqueItems => value.hasUniqueItems
  | ipAddress family => value.isString (isAddress · family)
  | jsonString maxDepth => value.isString (Json.isText · maxDepth)
  | past => value.isInstant fun t => t.before now
  | future => value.isInstant fun t => now.before t
  | pastOrPresent => value.isInstant fun t => !now.before t
  | futureOrPresent => value.isInstant fun t => !t.before now
  | equalsField field => value.equalsField parent field
  | notEqualsField field => !value.equalsField parent field
  | custom _ => false

/-- Whether a value satisfies the rule, a pattern being vetted with a store, and what the store has come to then. The
store is asked only once there is a text to match. -/
def acceptsWith (store : PatternStore) (rule : Rule) (now : Timestamp) (value parent : Json) : Bool × PatternStore :=
  match rule, value with
  | .pattern source, .string text =>
      match store.vet Pattern.defaultLimit source with
      | (.ok vetted, store) => (vetted.regex.matchesIn text, store)
      | (.error _, store) => (false, store)
  | rule, value => (rule.accepts now value parent, store)

end Rule

end Attest

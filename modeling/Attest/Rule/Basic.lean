import Attest.Format.Address
import Attest.Json.Text

/-!
Rules: what may be demanded of the value of a field. A rule has a name, which also is the key of its message,
and arguments for that message.
-/

namespace Attest

inductive Rule
  | required
  | requiredIf (field : String) (equals : Json)
  | requiredUnless (field : String) (equals : Json)
  | requiredWith (field : String)
  | requiredWithout (field : String)
  | notBlank
  | minLength (least : Nat)
  | maxLength (most : Nat)
  | length (least most : Nat)
  | startsWith (start : String)
  | endsWith (ending : String)
  | contains (part : String)
  | lowercase
  | uppercase
  | oneOf (choices : List Json)
  | pattern (pattern : String)
  | email
  | url
  | uuid
  | min (bound : Double)
  | max (bound : Double)
  | range (least greatest : Double)
  | positive
  | negative
  | even
  | odd
  | divisibleBy (divisor : Int)
  | decimalPlaces (most : Nat)
  | minSize (least : Nat)
  | maxSize (most : Nat)
  | notEmpty
  | uniqueItems
  | ipAddress (family : AddressFamily)
  | jsonString (maxDepth : Nat)
  | past
  | future
  | pastOrPresent
  | futureOrPresent
  | equalsField (field : String)
  | notEqualsField (field : String)
  | custom (predicate : String)
  deriving Repr

namespace Rule

/-- How deep a JSON text in a string may be nested when nothing else is said. -/
def defaultJsonDepth : Nat := 128

def name : Rule → String
  | required => "required"
  | requiredIf .. => "required_if"
  | requiredUnless .. => "required_unless"
  | requiredWith _ => "required_with"
  | requiredWithout _ => "required_without"
  | notBlank => "not_blank"
  | minLength _ => "min_length"
  | maxLength _ => "max_length"
  | length .. => "length"
  | startsWith _ => "starts_with"
  | endsWith _ => "ends_with"
  | contains _ => "contains"
  | lowercase => "lowercase"
  | uppercase => "uppercase"
  | oneOf _ => "one_of"
  | pattern _ => "pattern"
  | email => "email"
  | url => "url"
  | uuid => "uuid"
  | min _ => "min"
  | max _ => "max"
  | range .. => "range"
  | positive => "positive"
  | negative => "negative"
  | even => "even"
  | odd => "odd"
  | divisibleBy _ => "divisible_by"
  | decimalPlaces _ => "decimal_places"
  | minSize _ => "min_size"
  | maxSize _ => "max_size"
  | notEmpty => "not_empty"
  | uniqueItems => "unique_items"
  | ipAddress _ => "ip_address"
  | jsonString _ => "json_string"
  | past => "past"
  | future => "future"
  | pastOrPresent => "past_or_present"
  | futureOrPresent => "future_or_present"
  | equalsField _ => "equals_field"
  | notEqualsField _ => "not_equals_field"
  | custom _ => "custom"

/-- The rules about presence; they alone are asked of a null value. -/
def isPresence : Rule → Bool
  | required | requiredIf .. | requiredUnless .. | requiredWith _ | requiredWithout _ => true
  | _ => false

/-- What a message says for each argument of the rule, in order. -/
def arguments : Rule → List String
  | requiredIf field equals | requiredUnless field equals => [field, equals.display]
  | requiredWith field | requiredWithout field | equalsField field | notEqualsField field => [field]
  | minLength n | maxLength n | minSize n | maxSize n | decimalPlaces n | jsonString n => [toString n]
  | length least most => [toString least, toString most]
  | startsWith s | endsWith s | contains s | pattern s => [s]
  | oneOf choices => [", ".intercalate (choices.map Json.display)]
  | min bound | max bound => [bound.briefText]
  | range least greatest => [least.briefText, greatest.briefText]
  | divisibleBy divisor => [toString divisor]
  | ipAddress family => [family.label]
  | custom predicate => [predicate]
  | required | notBlank | lowercase | uppercase | email | url | uuid | positive | negative | even | odd
  | notEmpty | uniqueItems | past | future | pastOrPresent | futureOrPresent => []

/-- Equality of rules, their values compared as in documents; a bound that is not a number equals nothing. -/
def same : Rule → Rule → Bool
  | required, required => true
  | requiredIf f v, requiredIf g w => f == g && v.same w
  | requiredUnless f v, requiredUnless g w => f == g && v.same w
  | requiredWith f, requiredWith g => f == g
  | requiredWithout f, requiredWithout g => f == g
  | notBlank, notBlank => true
  | minLength m, minLength n => m == n
  | maxLength m, maxLength n => m == n
  | length k l, length m n => k == m && l == n
  | startsWith s, startsWith t => s == t
  | endsWith s, endsWith t => s == t
  | contains s, contains t => s == t
  | lowercase, lowercase => true
  | uppercase, uppercase => true
  | oneOf vs, oneOf ws => Json.sameItems vs ws
  | pattern s, pattern t => s == t
  | email, email => true
  | url, url => true
  | uuid, uuid => true
  | min x, min y => x.equal y
  | max x, max y => x.equal y
  | range x y, range z w => x.equal z && y.equal w
  | positive, positive => true
  | negative, negative => true
  | even, even => true
  | odd, odd => true
  | divisibleBy m, divisibleBy n => m == n
  | decimalPlaces m, decimalPlaces n => m == n
  | minSize m, minSize n => m == n
  | maxSize m, maxSize n => m == n
  | notEmpty, notEmpty => true
  | uniqueItems, uniqueItems => true
  | ipAddress f, ipAddress g => f == g
  | jsonString m, jsonString n => m == n
  | past, past => true
  | future, future => true
  | pastOrPresent, pastOrPresent => true
  | futureOrPresent, futureOrPresent => true
  | equalsField f, equalsField g => f == g
  | notEqualsField f, notEqualsField g => f == g
  | custom s, custom t => s == t
  | _, _ => false

end Rule

/-- A rule in a chain, with the key of another message than the rule's own. -/
structure Step where
  rule : Rule
  message : Option String
  deriving Repr

namespace Step

def messageKey (s : Step) : String :=
  s.message.getD s.rule.name

def same (s t : Step) : Bool :=
  s.rule.same t.rule && s.message == t.message

end Step

end Attest

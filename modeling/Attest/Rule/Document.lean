import Attest.Json.Decode
import Attest.Rule.Basic

/-!
Rules as documents. A rule is an object with its name under `rule` and, if it has parameters, these under `value`;
in a chain the key of a message may stand beside them under `message`. The order of the members is free, so
the parameters are kept until the name is known.
-/

namespace Attest

/-- What stands under the two keys of a rule, unless a key occurs twice. -/
structure RuleParts where
  name : Option Draft
  value : Option Draft

namespace RuleParts

def ofMembers (members : List (String × Draft)) : Except Fault RuleParts :=
  members.foldlM take ⟨none, none⟩
where
  take (parts : RuleParts) : String × Draft → Except Fault RuleParts
    | ("rule", d) => if parts.name.isSome then .error .misfit else .ok { parts with name := some d }
    | ("value", d) => if parts.value.isSome then .error .misfit else .ok { parts with value := some d }
    | _ => .ok parts

end RuleParts

namespace Rule

/-! ### Reading -/

/-- The parameters of a rule without any: none, or null. -/
def bare (rule : Rule) : Option Draft → Except Fault Rule
  | none => .ok rule
  | some .null => .ok rule
  | some _ => .error .misfit

/-- The parameters of a rule that needs them. -/
def taking (value : Decoder α) (make : α → Rule) : Option Draft → Except Fault Rule
  | none => .error .misfit
  | some d => (value Decoder.nesting d).map make

/-- Named parameters, which are always written as an object. -/
def fields (fields : List (String × (σ → Nat → Draft → Except Fault σ))) (start : σ) : Decoder σ
  | _, .array _ _ => .error .misfit
  | depth, d => Decoder.record fields start depth d

/-- Two named parameters. -/
def pair (key₁ : String) (value₁ : Decoder α) (key₂ : String) (value₂ : Decoder β) : Decoder (α × β) :=
  fun depth d => do
    let (a, b) ← fields [
      (key₁, fun (a, b) depth d => do pure (← Decoder.once value₁ a depth d, b)),
      (key₂, fun (a, b) depth d => do pure (a, ← Decoder.once value₂ b depth d))] (none, none) depth d
    pure (← Decoder.required a, ← Decoder.required b)

def single (key : String) (value : Decoder α) : Decoder α := fun depth d => do
  let a ← fields [(key, Decoder.once value)] none depth d
  Decoder.required a

/-- A single named parameter that may be missing. -/
def optionalSingle (key : String) (value : Decoder α) (otherwise : α) : Decoder α := fun depth d => do
  let a ← fields [(key, Decoder.once value)] none depth d
  pure (a.getD otherwise)

/-- A count of 64 bits. -/
def count : Decoder Nat := Decoder.natural 64

def familyOfWord? : String → Option AddressFamily
  | "v4" => some .v4
  | "v6" => some .v6
  | "any" => some .any
  | _ => none

/-- How the parameters are read, by the name of the rule. -/
def reader? : String → Option (Option Draft → Except Fault Rule)
  | "required" => some (bare required)
  | "required_if" => some (taking (pair "field" Decoder.string "equals" Decoder.json) fun (f, v) => requiredIf f v)
  | "required_unless" =>
      some (taking (pair "field" Decoder.string "equals" Decoder.json) fun (f, v) => requiredUnless f v)
  | "required_with" => some (taking (single "field" Decoder.string) requiredWith)
  | "required_without" => some (taking (single "field" Decoder.string) requiredWithout)
  | "not_blank" => some (bare notBlank)
  | "min_length" => some (taking count minLength)
  | "max_length" => some (taking count maxLength)
  | "length" => some (taking (pair "min" count "max" count) fun (m, n) => length m n)
  | "starts_with" => some (taking Decoder.string startsWith)
  | "ends_with" => some (taking Decoder.string endsWith)
  | "contains" => some (taking Decoder.string contains)
  | "lowercase" => some (bare lowercase)
  | "uppercase" => some (bare uppercase)
  | "one_of" => some (taking (Decoder.list Decoder.json) oneOf)
  | "pattern" => some (taking Decoder.string pattern)
  | "email" => some (bare email)
  | "url" => some (bare url)
  | "uuid" => some (bare uuid)
  | "min" => some (taking Decoder.double min)
  | "max" => some (taking Decoder.double max)
  | "range" => some (taking (pair "min" Decoder.double "max" Decoder.double) fun (x, y) => range x y)
  | "positive" => some (bare positive)
  | "negative" => some (bare negative)
  | "even" => some (bare even)
  | "odd" => some (bare odd)
  | "divisible_by" => some (taking (Decoder.integer (-Int.pow 2 63) (Int.pow 2 63 - 1)) divisibleBy)
  | "decimal_places" => some (taking (Decoder.natural 32) decimalPlaces)
  | "min_size" => some (taking count minSize)
  | "max_size" => some (taking count maxSize)
  | "not_empty" => some (bare notEmpty)
  | "unique_items" => some (bare uniqueItems)
  | "ip_address" => some (taking (Decoder.word familyOfWord?) ipAddress)
  | "json_string" => some (taking (optionalSingle "max_depth" count defaultJsonDepth) jsonString)
  | "past" => some (bare past)
  | "future" => some (bare future)
  | "past_or_present" => some (bare pastOrPresent)
  | "future_or_present" => some (bare futureOrPresent)
  | "equals_field" => some (taking Decoder.string equalsField)
  | "not_equals_field" => some (taking Decoder.string notEqualsField)
  | "custom" => some (taking Decoder.string custom)
  | _ => none

/-- The rule of its parts; whatever is wrong with them is their shape. -/
def ofParts (parts : RuleParts) : Except Fault Rule :=
  match parts.name with
  | none => .error .misfit
  | some name =>
      match Decoder.word reader? Decoder.nesting name with
      | .error _ => .error .misfit
      | .ok read => (read parts.value).mapError fun _ => .misfit

/-- A rule that is a value of its own: an object, or its name and parameters in an array. -/
def ofJson : Json → Except Fault Rule
  | .object members => do
      ofParts (← RuleParts.ofMembers (members.map fun (key, v) => (key, Draft.ofJson v)))
  | .array [name, value] => ofParts ⟨some (.ofJson name), some (.ofJson value)⟩
  | _ => .error .misfit

/-! ### Writing -/

/-- A number as it is written into a document, null if there is no number for it. -/
def boundText : Double → List Char
  | .finite x => (Number.real x).text
  | _ => Json.null.render

def countText (n : Nat) : List Char :=
  (Json.number (.int n)).render

def familyWord : AddressFamily → String
  | .v4 => "v4"
  | .v6 => "v6"
  | .any => "any"

/-- The parameters of a rule as they are written. -/
def valueText? : Rule → Option (List Char)
  | requiredIf field equals | requiredUnless field equals =>
      some (Json.renderFields [("field", Json.quote field), ("equals", equals.render)])
  | requiredWith field | requiredWithout field => some (Json.renderFields [("field", Json.quote field)])
  | minLength n | maxLength n | minSize n | maxSize n | decimalPlaces n => some (countText n)
  | length least most => some (Json.renderFields [("min", countText least), ("max", countText most)])
  | startsWith s | endsWith s | contains s | pattern s | equalsField s | notEqualsField s | custom s =>
      some (Json.quote s)
  | oneOf choices => some (Json.array choices).render
  | min bound | max bound => some (boundText bound)
  | range least greatest => some (Json.renderFields [("min", boundText least), ("max", boundText greatest)])
  | divisibleBy divisor => some (Json.number (.int divisor)).render
  | ipAddress family => some (Json.quote (familyWord family))
  | jsonString maxDepth => some (Json.renderFields [("max_depth", countText maxDepth)])
  | required | notBlank | lowercase | uppercase | email | url | uuid | positive | negative | even | odd
  | notEmpty | uniqueItems | past | future | pastOrPresent | futureOrPresent => none

/-- The members of the document of a rule. -/
def documentFields (rule : Rule) : List (String × List Char) :=
  ("rule", Json.quote rule.name) :: (rule.valueText?.map fun text => ("value", text)).toList

end Rule

namespace Step

def render (s : Step) : List Char :=
  Json.renderFields (s.rule.documentFields ++ (s.message.map fun key => ("message", Json.quote key)).toList)

def document (s : Step) : String :=
  String.ofList s.render

/-- What has been read of a step: its message, and all other members as they are. -/
structure Progress where
  message : Option (Option String)
  others : List (String × Draft)

/-- Reads a step, which is always written as an object. All members are read in their order, but those of the
rule are only looked at for their grammar until the end. -/
def decoder : Decoder Step
  | 0, .object _ _ => .error .malformed
  | depth + 1, .object members ending => do
      let progress ← members.foldlM (take depth) ⟨none, []⟩
      Decoder.finish ending
      let rule ← Rule.ofParts (← RuleParts.ofMembers progress.others.reverse)
      pure ⟨rule, progress.message.getD none⟩
  | _, .array _ _ => .error .misfit
  | _, d => .error (Decoder.unexpected d)
where
  take (depth : Nat) (progress : Progress) : String × Draft → Except Fault Progress
    | ("message", d) => do
        let message ← Decoder.once (Decoder.optional Decoder.string) progress.message depth d
        pure { progress with message := message }
    | (key, d) => do
        let _ ← Decoder.json depth d
        pure { progress with others := (key, d) :: progress.others }

def ofDocument (text : String) : Except Fault Step :=
  Decoder.decodeText decoder text

end Step

end Attest

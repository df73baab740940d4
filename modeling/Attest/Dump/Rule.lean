import Attest.Dump
import Attest.Rule.Basic

/-!
Rules and the values in them as logs show them.
-/

namespace Attest

mutual

def Json.dump : Json → Dump
  | .null => .word "Null"
  | .bool b => .tuple "Bool" [.ofBool b]
  | .number n => .tuple "Number" [.word (String.ofList n.text)]
  | .string s => .tuple "String" [.quoted s]
  | .array items => .labelled "Array" (.list (Json.dumpItems items))
  | .object members => .labelled "Object" (.map (Json.dumpMembers members))
termination_by structural v => v

def Json.dumpItems : List Json → List Dump
  | [] => []
  | v :: rest => v.dump :: Json.dumpItems rest
termination_by structural vs => vs

def Json.dumpMembers : List (String × Json) → List (String × Dump)
  | [] => []
  | m :: rest => Json.dumpMember m :: Json.dumpMembers rest
termination_by structural ms => ms

def Json.dumpMember : String × Json → String × Dump
  | (key, v) => (key, v.dump)
termination_by structural m => m

end

def Double.dump (x : Double) : Dump :=
  .word (x.styled .dump)

def AddressFamily.dump : AddressFamily → Dump
  | .v4 => .word "V4"
  | .v6 => .word "V6"
  | .any => .word "Any"

namespace Rule

/-- The name of the rule in camel case. -/
def dumpName (rule : Rule) : String :=
  String.join ((rule.name.splitOn "_").map String.capitalize)

def dump (rule : Rule) : Dump :=
  let tuple (parts : List Dump) : Dump := .tuple rule.dumpName parts
  let record (parts : List (String × Dump)) : Dump := .record rule.dumpName parts false
  match rule with
  | requiredIf field equals | requiredUnless field equals =>
      record [("field", .quoted field), ("equals", equals.dump)]
  | requiredWith field | requiredWithout field => record [("field", .quoted field)]
  | minLength n | maxLength n | minSize n | maxSize n | decimalPlaces n => tuple [.ofNat n]
  | length least most => record [("min", .ofNat least), ("max", .ofNat most)]
  | startsWith s | endsWith s | contains s | pattern s | equalsField s | notEqualsField s | custom s =>
      tuple [.quoted s]
  | oneOf choices => tuple [.list (choices.map Json.dump)]
  | min bound | max bound => tuple [bound.dump]
  | range least greatest => record [("min", least.dump), ("max", greatest.dump)]
  | divisibleBy divisor => tuple [.word (toString divisor)]
  | ipAddress family => tuple [family.dump]
  | jsonString maxDepth => record [("max_depth", .ofNat maxDepth)]
  | required | notBlank | lowercase | uppercase | email | url | uuid | positive | negative | even | odd
  | notEmpty | uniqueItems | past | future | pastOrPresent | futureOrPresent => .word rule.dumpName

end Rule

end Attest

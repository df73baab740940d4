import Attest.Rule.Document
import Attest.Schema.Basic

/-!
Schemas as documents. Everything but the names and the list of fields may be left out, and a field with nothing
but the defaults is written with its name, whether null is allowed, and its steps.
-/

namespace Attest

namespace Nesting

structure Progress where
  schema : Option String
  each : Option Bool

def decoder : Decoder Nesting := fun depth d => do
  let p ← Decoder.record [
    ("schema", fun (p : Progress) depth d => do
      pure { p with schema := ← Decoder.once Decoder.string p.schema depth d }),
    ("each_element", fun (p : Progress) depth d => do
      pure { p with each := ← Decoder.once Decoder.bool p.each depth d })]
    ⟨none, none⟩ depth d
  pure ⟨← Decoder.required p.schema, p.each.getD false⟩

def render (n : Nesting) : List Char :=
  Json.renderFields [("schema", Json.quote n.schema), ("each_element", (Json.bool n.each).render)]

end Nesting

namespace Field

structure Progress where
  name : Option String
  nullable : Option Bool
  steps : Option (List Step)
  checkpoints : Option (List Nat)
  nested : Option (Option Nesting)

def decoder : Decoder Field := fun depth d => do
  let p ← Decoder.record [
    ("name", fun (p : Progress) depth d => do
      pure { p with name := ← Decoder.once Decoder.string p.name depth d }),
    ("nullable", fun (p : Progress) depth d => do
      pure { p with nullable := ← Decoder.once Decoder.bool p.nullable depth d }),
    ("steps", fun (p : Progress) depth d => do
      pure { p with steps := ← Decoder.once (Decoder.list Step.decoder) p.steps depth d }),
    ("checkpoints", fun (p : Progress) depth d => do
      pure { p with checkpoints := ← Decoder.once (Decoder.list Rule.count) p.checkpoints depth d }),
    ("nested", fun (p : Progress) depth d => do
      pure { p with nested := ← Decoder.once (Decoder.optional Nesting.decoder) p.nested depth d })]
    ⟨none, none, none, none, none⟩ depth d
  let name ← Decoder.required p.name
  pure {
    name := name
    nullable := p.nullable.getD true
    steps := p.steps.getD []
    checkpoints := .ofList (p.checkpoints.getD [])
    nested := p.nested.getD none }

def render (f : Field) : List Char :=
  Json.renderFields (
    [("name", Json.quote f.name), ("nullable", (Json.bool f.nullable).render),
      ("steps", Json.renderList (f.steps.map Step.render))] ++
    (if f.checkpoints.isEmpty then [] else
      [("checkpoints", Json.renderList (f.checkpoints.positions.map Rule.countText))]) ++
    (f.nested.map fun n => ("nested", n.render)).toList)

end Field

namespace Schema

structure Progress where
  name : Option String
  fields : Option (List Field)

def decoder : Decoder Schema := fun depth d => do
  let p ← Decoder.record [
    ("name", fun (p : Progress) depth d => do
      pure { p with name := ← Decoder.once Decoder.string p.name depth d }),
    ("fields", fun (p : Progress) depth d => do
      pure { p with fields := ← Decoder.once (Decoder.list Field.decoder) p.fields depth d })]
    ⟨none, none⟩ depth d
  pure ⟨← Decoder.required p.name, ← Decoder.required p.fields⟩

def ofDocument (text : String) : Except Fault Schema :=
  Decoder.decodeText decoder text

def ofJson (v : Json) : Except Fault Schema :=
  Decoder.decodeValue decoder v

def render (s : Schema) : List Char :=
  Json.renderFields [("name", Json.quote s.name), ("fields", Json.renderList (s.fields.map Field.render))]

def document (s : Schema) : String :=
  String.ofList s.render

end Schema

end Attest

/-
This file defines how a configuration describes the fields of a form.
-/

import PropertyPanel.Source

namespace PropertyPanel

/-- The kind of input in which a field is edited. -/
inductive InputKind where
  | text
  | textArea
  | integer
  | boolean
  deriving DecidableEq

namespace InputKind

def name : InputKind → String
  | text => "string"
  | textArea => "textArea"
  | integer => "integer"
  | boolean => "boolean"

/-- An unknown kind is edited as plain text. -/
def ofName : String → InputKind
  | "textArea" => textArea
  | "integer" => integer
  | "boolean" => boolean
  | _ => text

end InputKind

/-- A descriptor says where the value of a field is found and how it is shown. -/
structure FieldDescriptor where
  location : String
  kind : InputKind
  values : List String
  readonly : Bool
  name : Option String
  deriving DecidableEq

namespace FieldDescriptor

/-- The parts of a declared field, in the order in which a list spells them. -/
def partNames : List String := ["location", "type", "values", "readonly", "name"]

/-- A field of a location is plain text without further parts. -/
def atLocation (location : String) : FieldDescriptor := ⟨location, .text, [], false, none⟩

def ofSource? (source : Source) : Option FieldDescriptor := do
  let parts ← source.record? partNames
  let location ← Source.required? parts "location" Source.text?
  let kind ← Source.defaulted? parts "type" .text fun part => part.text?.map InputKind.ofName
  let values ← Source.defaulted? parts "values" [] (Source.items? Source.text?)
  let readonly ← Source.defaulted? parts "readonly" false Source.flag?
  let name ← Source.defaulted? parts "name" none (Source.optional? Source.text?)
  return ⟨location, kind, values, readonly, name⟩

/-- The location and the kind are always written. -/
def toJson (field : FieldDescriptor) : Json :=
  .object <|
    [("location", .text field.location), ("type", .text field.kind.name)] ++
    (if field.values.isEmpty then [] else [("values", .texts field.values)]) ++
    (if field.readonly then [("readonly", .flag true)] else []) ++
    (field.name.map fun name => ("name", Json.text name)).toList

end FieldDescriptor

/-- The fields of a form, by identifier and in the order of their declaration. -/
abbrev FieldMap := Dictionary String FieldDescriptor

def FieldMap.ofSource? : Source → Option FieldMap :=
  Source.dictionary? FieldDescriptor.ofSource?

end PropertyPanel

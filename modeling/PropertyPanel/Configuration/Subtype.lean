/-
This file defines the alternative forms of an element and the criteria that choose between them.
-/

import PropertyPanel.Configuration.Field
import PropertyPanel.Scalar

namespace PropertyPanel

/-- A criterion expects a value at a location, or any value if it names none. -/
structure Criterion where
  id : String
  location : String
  value : Option Scalar
  deriving DecidableEq

namespace Criterion

/-- The parts of a declared criterion, in the order in which a list spells them. -/
def partNames : List String := ["id", "location", "value"]

/-- An expected value weighs more than mere presence. -/
def specificity (criterion : Criterion) : Nat := if criterion.value.isSome then 2 else 1

def ofSource? (source : Source) : Option Criterion := do
  let parts ← source.record? partNames
  let id ← Source.required? parts "id" Source.text?
  let location ← Source.required? parts "location" Source.text?
  let value ← Source.defaulted? parts "value" none (Source.optional? Scalar.ofSource?)
  return ⟨id, location, value⟩

def toJson (criterion : Criterion) : Json :=
  .object <|
    [("id", .text criterion.id), ("location", .text criterion.location)] ++
    (criterion.value.map fun value => ("value", value.toJson)).toList

end Criterion

/-- A subtype applies to the elements that satisfy all its criteria. -/
structure ElementSubtype where
  name : String
  criteria : List Criterion
  fields : FieldMap
  deriving DecidableEq

namespace ElementSubtype

/-- The weights of all criteria together. A word of 32 bits holds them if it holds twice the number
of the criteria. -/
def specificity (kind : ElementSubtype) : Nat :=
  (kind.criteria.map Criterion.specificity).foldr (· + ·) 0

/-- A criterion is required if one with its identifier and location is among the criteria. -/
def requires (kind : ElementSubtype) (criterion : Criterion) : Bool :=
  kind.criteria.any fun required =>
    required.id = criterion.id && required.location = criterion.location

end ElementSubtype

/-- The forms of one element type. -/
structure ElementConfiguration where
  fields : Option FieldMap
  subtypes : List ElementSubtype
  deriving DecidableEq

namespace ElementConfiguration

def empty : ElementConfiguration := ⟨none, []⟩

def hasSubtypes (element : ElementConfiguration) : Bool := !element.subtypes.isEmpty

def subtype? (element : ElementConfiguration) (name : String) : Option ElementSubtype :=
  element.subtypes.find? fun kind => kind.name = name

def subtypeNames (element : ElementConfiguration) : List String :=
  element.subtypes.map ElementSubtype.name

/-- Declared fields join the fields that are shown without a subtype. -/
def addFields (element : ElementConfiguration) (fields : FieldMap) : ElementConfiguration :=
  { element with fields := some ((element.fields.getD .empty).extend fields) }

def addField (element : ElementConfiguration) (name : String) (field : FieldDescriptor) :
    ElementConfiguration :=
  { element with fields := some ((element.fields.getD .empty).insert name field) }

def addSubtype (element : ElementConfiguration) (kind : ElementSubtype) : ElementConfiguration :=
  { element with subtypes := element.subtypes ++ [kind] }

/-- The field maps of an element, the one without a subtype first. -/
def fieldMaps (element : ElementConfiguration) : List FieldMap :=
  element.fields.toList ++ element.subtypes.map ElementSubtype.fields

end ElementConfiguration

end PropertyPanel

/-
This file reads the declarations of a configuration from the tree that its text spells.
-/

import PropertyPanel.Configuration.Subtype
import PropertyPanel.Location.Descriptor

namespace PropertyPanel

/-- An entry of an element is what the first fitting reading of its text says. -/
inductive EntryDeclaration where
  | field (descriptor : FieldDescriptor)
  | subtype (criteria : List Criterion) (fields : FieldMap)
  | fields (fields : FieldMap)
  | other (value : Json)

namespace EntryDeclaration

def subtypeOfSource? (source : Source) : Option EntryDeclaration := do
  let parts ← source.record? ["criteria", "fields"]
  let criteria ← Source.required? parts "criteria" (Source.items? Criterion.ofSource?)
  let fields ← Source.defaulted? parts "fields" .empty FieldMap.ofSource?
  return .subtype criteria fields

/-- The readings are tried on a settled tree, in the order of the constructors. -/
def ofSettled? (levels : Nat) (source : Source) : Option EntryDeclaration :=
  ((FieldDescriptor.ofSource? source).map field).orElse fun _ =>
    (subtypeOfSource? source).orElse fun _ =>
      ((FieldMap.ofSource? source).map fields).orElse fun _ =>
        (source.json? levels).map other

def ofSource? (levels : Nat) (source : Source) : Option EntryDeclaration :=
  (source.settle? levels).bind (ofSettled? levels)

end EntryDeclaration

/-- The locations and the elements as they are declared. -/
structure ConfigurationDeclaration where
  locations : Dictionary String (List StepDeclaration)
  elements : Dictionary String (Dictionary String EntryDeclaration)

namespace ConfigurationDeclaration

def ofSource? (levels : Nat) (source : Source) : Option ConfigurationDeclaration := do
  let parts ← source.record? ["locations", "elements"]
  let locations ← Source.defaulted? parts "locations" .empty
    (Source.dictionary? (Source.items? (StepDeclaration.ofSource? (levels - 3))))
  let elements ← Source.defaulted? parts "elements" .empty
    (Source.dictionary? (Source.dictionary? (EntryDeclaration.ofSource? (levels - 3))))
  return ⟨locations, elements⟩

end ConfigurationDeclaration

end PropertyPanel

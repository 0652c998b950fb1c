/-
This file proves that the built-in configuration places all the fields that it describes.
-/

import PropertyPanel.Configuration.Builtin
import PropertyPanel.Proofs.Configuration
import PropertyPanel.Proofs.Resolution.Placement

namespace PropertyPanel.Configuration

/-- Whether the location of a described field is known and places the field. -/
def placesField (configuration : Configuration) (entry : String × FieldDescriptor) : Bool :=
  (configuration.locations.find? entry.2.location).any fun location =>
    decide (Placed entry.1 location.steps)

def placesFields (configuration : Configuration) : Bool :=
  configuration.allFields.all fun fields => fields.entries.all configuration.placesField

set_option maxRecDepth 100000 in
/-- The built-in text is read once, and each field that it describes is looked at. -/
theorem builtin_placesFields : builtin.toOption.any placesFields = true := by
  unfold builtin ofJsonText Json.source? Json.Token.scan? builtinText
  rw [String.toList_ofList]
  decide +kernel

theorem builtin_places {configuration : Configuration} (given : builtin = .ok configuration)
    {fields : FieldMap} (listed : fields ∈ configuration.allFields) {field : String}
    {descriptor : FieldDescriptor} (found : fields.find? field = some descriptor) :
    configuration.locations.Places field descriptor.location := by
  have checked := builtin_placesFields
  rw [given] at checked
  have fields := List.all_eq_true.mp checked _ listed
  have placed := List.all_eq_true.mp fields _ (Dictionary.find?_eq_some.mp found)
  obtain ⟨location, known, test⟩ := (Option.any_eq_true _ _).mp placed
  exact ⟨location, known, of_decide_eq_true test⟩

end PropertyPanel.Configuration

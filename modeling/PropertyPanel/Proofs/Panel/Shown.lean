/-
This file proves that the selected element is shown, and which of its fields a name describes.
-/

import PropertyPanel.Panel
import PropertyPanel.Proofs.Configuration
import PropertyPanel.Proofs.Form

namespace PropertyPanel.Panel

variable {Host : Type} [DiagramHost Host] {panel : Panel} {host : Host} {id : ElementId}
  {field : String}

/-- An idle panel shows every selected element that the host has. -/
theorem render_selected (idle : panel.rendering = false) (selected : panel.current = some id)
    {elementType : String} (typed : DiagramHost.elementType? host id = some elementType) :
    (panel.render host).2 = some (panel.configuration.view id elementType panel.selectedSubtype
      (panel.currentValue host id)) := by
  unfold render
  simp only [idle, Bool.false_eq_true, if_false, selected, typed]

/-- A field is described where it is shown first. -/
theorem descriptor?_shownFields (selected : panel.current = some id) {elementType : String}
    (typed : DiagramHost.elementType? host id = some elementType) :
    panel.descriptor? host field =
      (panel.configuration.shownFields elementType panel.selectedSubtype).lookup field := by
  rw [Configuration.shownFields_elementFields, List.lookup_append, descriptor?, selected,
    Option.bind_eq_bind, Option.bind_some]
  change _ = (panel.configuration.common.find? field).or _
  cases panel.configuration.common.find? field with
  | some descriptor => rfl
  | none =>
      rw [Option.none_or, typed, Configuration.elementFields]
      simp only [Option.bind_eq_bind, Option.bind_some]
      cases panel.configuration.element? elementType with
      | none => rfl
      | some element =>
          simp only [Option.bind_some]
          cases panel.selectedSubtype.bind element.subtype? with
          | some kind => rfl
          | none => cases element.fields <;> rfl

/-- A described field is in the common field map or in one of the element that is selected. -/
theorem descriptor?_cases {descriptor : FieldDescriptor}
    (shown : panel.descriptor? host field = some descriptor) :
    panel.configuration.common.find? field = some descriptor ∨
      ∃ id elementType element, panel.current = some id ∧
        DiagramHost.elementType? host id = some elementType ∧
        panel.configuration.element? elementType = some element ∧
        ∃ fields ∈ element.fieldMaps, fields.find? field = some descriptor := by
  rw [descriptor?, Option.bind_eq_bind, Option.bind_eq_some_iff] at shown
  obtain ⟨id, selected, shown⟩ := shown
  cases common : panel.configuration.common.find? field with
  | some first =>
      rw [common] at shown
      cases shown
      exact .inl rfl
  | none =>
      simp only [common, Option.bind_eq_bind, Option.bind_eq_some_iff] at shown
      obtain ⟨elementType, typed, element, configured, shown⟩ := shown
      refine .inr ⟨id, elementType, element, selected, typed, configured, ?_⟩
      split at shown
      · rename_i kind chosen
        obtain ⟨_, _, found⟩ := Option.bind_eq_some_iff.mp chosen
        exact ⟨kind.fields, List.mem_append_right _
          (List.mem_map_of_mem (List.mem_of_find?_eq_some found)), shown⟩
      · obtain ⟨fields, generic, shown⟩ := Option.bind_eq_some_iff.mp shown
        exact ⟨fields, List.mem_append_left _ (by simp [generic]), shown⟩

/-- A described field is in one of the field maps of the configuration. -/
theorem find?_descriptor? {descriptor : FieldDescriptor}
    (shown : panel.descriptor? host field = some descriptor) :
    ∃ fields ∈ panel.configuration.allFields, fields.find? field = some descriptor := by
  cases descriptor?_cases shown with
  | inl common => exact ⟨_, Configuration.mem_allFields (.inl rfl), common⟩
  | inr other =>
      obtain ⟨_, elementType, element, _, _, configured, fields, listed, found⟩ := other
      exact ⟨fields, Configuration.mem_allFields (.inr ⟨elementType, element, configured, listed⟩),
        found⟩

/-- The location of a described field is one that the configuration uses. -/
theorem location_descriptor? {descriptor : FieldDescriptor}
    (shown : panel.descriptor? host field = some descriptor) :
    descriptor.location ∈ panel.configuration.usedLocations := by
  obtain ⟨fields, listed, found⟩ := find?_descriptor? shown
  exact Configuration.location_mem_usedLocations found listed

end PropertyPanel.Panel

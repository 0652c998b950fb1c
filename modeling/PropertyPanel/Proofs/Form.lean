/-
This file proves which fields a form shows and that it shows a typed value as it was typed.
-/

import PropertyPanel.Form.View
import PropertyPanel.Proofs.Dictionary
import PropertyPanel.Proofs.Number.Integer

namespace PropertyPanel

namespace FieldInput

/-- No input has an empty value. -/
theorem value_filled {typed : FieldInput} {held : Scalar} (present : held ∈ typed.value) :
    held.isEmpty = false := by
  unfold value at present
  split at present
  · split at present
    · cases present
    · rename_i filled
      cases present
      exact Bool.eq_false_iff.mpr filled
  · obtain ⟨number, _, same⟩ := Option.map_eq_some_iff.mp present
    rw [← same]
    rfl
  · split at present
    · cases present
      rfl
    · cases present

theorem parse_integer {raw : String} {typed : FieldInput}
    (parsed : parse .integer raw = .ok typed) : ∃ number, typed = .integer number := by
  simp only [parse] at parsed
  split at parsed
  · exact ⟨_, (Except.ok.inj parsed).symm⟩
  · split at parsed
    · exact ⟨_, (Except.ok.inj parsed).symm⟩
    · cases parsed

theorem parse_boolean {raw : String} {typed : FieldInput}
    (parsed : parse .boolean raw = .ok typed) : ∃ checked, typed = .boolean checked := by
  simp only [parse] at parsed
  split at parsed
  · exact ⟨_, (Except.ok.inj parsed).symm⟩
  · split at parsed
    · exact ⟨_, (Except.ok.inj parsed).symm⟩
    · cases parsed

/-- The display text of a typed value is shown like the value itself. -/
theorem ofScalar_display {kind : InputKind} {raw : String} {typed : FieldInput}
    (parsed : parse kind raw = .ok typed) :
    FieldValue.ofScalar kind (typed.value.map fun value => .text value.display) =
      FieldValue.ofScalar kind typed.value := by
  cases kind with
  | text => cases typed.value <;> rfl
  | textArea => cases typed.value <;> rfl
  | integer =>
      obtain ⟨number, same⟩ := parse_integer parsed
      subst same
      cases number with
      | none => rfl
      | some number =>
          simp only [value, Option.map_some, Scalar.display, FieldValue.ofScalar,
            FieldValue.integerOf, Integer.trim_toString, Integer.parse?_toString]
  | boolean =>
      obtain ⟨checked, same⟩ := parse_boolean parsed
      subst same
      cases checked <;> decide

end FieldInput

namespace OutlineSection

/-- The views of a section are those of its entries. -/
theorem fieldViews_view (valueOf : String → FieldDescriptor → CurrentValue)
    (part : OutlineSection) :
    (part.view valueOf).fieldViews =
      part.entries.map fun entry => FieldView.build entry.1 entry.2 (valueOf entry.1 entry.2) := by
  cases part <;> rfl

end OutlineSection

namespace Configuration

variable (configuration : Configuration) (elementType : String) (selected : Option String)

/-- The fields of the selected subtype, or else those that are shown without one. -/
def elementFields : List (String × FieldDescriptor) :=
  match configuration.element? elementType with
  | some element =>
      match selected.bind element.subtype? with
      | some kind => kind.fields.entries
      | none => (element.fields.map Dictionary.entries).getD []
  | none => []

theorem shownFields_elementFields :
    configuration.shownFields elementType selected =
      configuration.common.entries ++ configuration.elementFields elementType selected := by
  have common : (if configuration.common.isEmpty then []
      else [OutlineSection.group "Basic Properties" configuration.common]).flatMap
        OutlineSection.entries = configuration.common.entries := by
    split
    · rename_i empty
      exact (List.isEmpty_iff.mp empty).symm
    · simp [OutlineSection.entries]
  have groups (element : ElementConfiguration) :
      (element.outline selected).flatMap OutlineSection.entries =
        match selected.bind element.subtype? with
        | some kind => kind.fields.entries
        | none => (element.fields.map Dictionary.entries).getD [] := by
    have selector : (if element.hasSubtypes then
        [OutlineSection.typeSelector ⟨element.subtypeNames,
          (selected.bind element.subtype?).map ElementSubtype.name⟩] else []).flatMap
          OutlineSection.entries = [] := by
      split <;> rfl
    rw [ElementConfiguration.outline, List.flatMap_append, selector, List.nil_append]
    split
    · rename_i kind _ chosen
      rw [chosen]
      dsimp only
      split
      · rename_i empty
        exact (List.isEmpty_iff.mp empty).symm
      · simp [OutlineSection.entries]
    · rename_i fields chosen held
      rw [chosen, held]
      simp [OutlineSection.entries]
    · rename_i chosen held
      rw [chosen, held]
      rfl
  rw [shownFields, outline, List.flatMap_append, common, elementFields]
  cases configuration.element? elementType with
  | some element => exact congrArg _ (groups element)
  | none => rfl

/-- The entries of a view are those of the fields that it shows, in their order. -/
theorem fields_view (id : ElementId) (valueOf : String → FieldDescriptor → CurrentValue) :
    (configuration.view id elementType selected valueOf).fields =
      (configuration.shownFields elementType selected).map fun entry =>
        FieldView.build entry.1 entry.2 (valueOf entry.1 entry.2) := by
  rw [PanelView.fields, view, List.flatMap_map, shownFields, List.map_flatMap]
  exact congrArg (List.flatMap · _) (funext fun part => part.fieldViews_view valueOf)

/-- A view depends on the values of the fields that it shows only. -/
theorem view_congr (id : ElementId) {valueOf other : String → FieldDescriptor → CurrentValue}
    (same : ∀ entry ∈ configuration.shownFields elementType selected,
      other entry.1 entry.2 = valueOf entry.1 entry.2) :
    configuration.view id elementType selected other =
      configuration.view id elementType selected valueOf := by
  have parts : ∀ part ∈ configuration.outline elementType selected,
      part.view other = part.view valueOf := by
    intro part listed
    cases part with
    | typeSelector selector => rfl
    | group title fields =>
        have entries : ∀ entry ∈ fields.entries, FieldView.build entry.1 entry.2
            (other entry.1 entry.2) = FieldView.build entry.1 entry.2 (valueOf entry.1 entry.2) :=
          fun entry inside => congrArg _ (same entry (List.mem_flatMap.mpr ⟨_, listed, inside⟩))
        simp only [OutlineSection.view, List.map_congr_left entries]
  rw [view, List.map_congr_left parts, view]

/-- A view finds a field where it is shown first. -/
theorem field?_view (id : ElementId) (valueOf : String → FieldDescriptor → CurrentValue)
    (field : String) :
    (configuration.view id elementType selected valueOf).field? field =
      ((configuration.shownFields elementType selected).lookup field).map fun descriptor =>
        FieldView.build field descriptor (valueOf field descriptor) := by
  rw [PanelView.field?, fields_view]
  induction configuration.shownFields elementType selected with
  | nil => rfl
  | cons entry rest ih =>
      rw [List.map_cons, Entries.lookup_entry, List.find?_cons]
      by_cases same : field = entry.1
      · simp [same, FieldView.build]
      · simpa [Ne.symm same, same, FieldView.build] using ih

end Configuration

end PropertyPanel

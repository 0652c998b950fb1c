/-
This file divides a diagram into the slices of its elements and proves that a change of one element
stays in its slice and depends on no other.
-/

import PropertyPanel.Proofs.Host

namespace PropertyPanel

/-- The slice of an element is the element with the reports on it. -/
structure Slice where
  element : Option Element
  reports : List (List PropertyUpdate)
  deriving DecidableEq

namespace Diagram

def slice (diagram : Diagram) (id : ElementId) : Slice :=
  ⟨diagram.element? id,
    (diagram.mutations.filter fun mutation => mutation.element = id).map Mutation.updates⟩

/-- The outline lists the elements in their order without their objects. -/
def outline (diagram : Diagram) : List (ElementId × ElementId × String) :=
  diagram.elements.entries.map fun entry => (entry.1, entry.2.id, entry.2.elementType)

section Change

variable (diagram : Diagram) (id : ElementId)

theorem elementType?_outline :
    diagram.elementType? id = (diagram.outline.lookup id).map Prod.snd := by
  rw [elementType?, element?, Dictionary.find?, outline]
  induction diagram.elements.entries with
  | nil => rfl
  | cons entry rest ih =>
      rw [List.map_cons, Entries.lookup_entry, Entries.lookup_entry]
      split
      · rfl
      · exact ih

theorem outline_replaceObject (object : BusinessObject) :
    (diagram.replaceObject id object).outline = diagram.outline := by
  unfold replaceObject
  split
  · rename_i element known
    exact Entries.map_put _ known rfl
  · rfl

/-- Only the element itself is replaced. -/
theorem slice_replaceObject (object : BusinessObject) (other : ElementId) :
    (diagram.replaceObject id object).slice other =
      if other = id then
        { diagram.slice id with
          element := (diagram.slice id).element.map fun element =>
            { element with businessObject := object } }
      else diagram.slice other := by
  rw [slice, element?_replaceObject, mutations_replaceObject]
  split
  · rename_i same
    rw [same]
    rfl
  · rfl

/-- A report joins the others on its element if there is such an element. -/
theorem slice_updateProperties (updates : List PropertyUpdate) (other : ElementId) :
    (diagram.updateProperties id updates).1.slice other =
      if other = id ∧ (diagram.slice id).element.isSome then
        { diagram.slice id with reports := (diagram.slice id).reports ++ [updates] }
      else diagram.slice other := by
  have known : diagram.elements.contains id = (diagram.slice id).element.isSome := rfl
  rw [← known, updateProperties]
  by_cases present : diagram.elements.contains id = true
  · rw [if_pos present]
    by_cases same : other = id
    · subst same
      simp [slice, element?, present]
    · simp [slice, element?, same, Ne.symm same]
  · simp [present]

end Change

/-- A change that touches some elements keeps the registry, the outline, the log so far and the
slices of all other elements. -/
structure Frame (touched : ElementId → Prop) (before after : Diagram) : Prop where
  registry : after.registry = before.registry
  outline : after.outline = before.outline
  log : before.mutations <+: after.mutations
  slice : ∀ id, ¬ touched id → after.slice id = before.slice id

section Frame

variable {touched : ElementId → Prop} (diagram : Diagram)

theorem Frame.refl : Frame touched diagram diagram :=
  ⟨rfl, rfl, List.prefix_rfl, fun _ _ => rfl⟩

variable {diagram}

theorem Frame.trans {middle after : Diagram} (first : Frame touched diagram middle)
    (second : Frame touched middle after) : Frame touched diagram after where
  registry := second.registry.trans first.registry
  outline := second.outline.trans first.outline
  log := first.log.trans second.log
  slice id untouched := (second.slice id untouched).trans (first.slice id untouched)

theorem Frame.mono {after : Diagram} {more : ElementId → Prop} (frame : Frame touched diagram after)
    (among : ∀ id, touched id → more id) : Frame more diagram after :=
  { frame with slice := fun id untouched => frame.slice id (mt (among id) untouched) }

theorem frame_replaceObject (id : ElementId) (object : BusinessObject) :
    Frame (· = id) diagram (diagram.replaceObject id object) where
  registry := diagram.registry_replaceObject id object
  outline := diagram.outline_replaceObject id object
  log := by simp only [mutations_replaceObject, List.prefix_rfl]
  slice other apart := by rw [slice_replaceObject, if_neg apart]

theorem frame_updateProperties (id : ElementId) (updates : List PropertyUpdate) :
    Frame (· = id) diagram (diagram.updateProperties id updates).1 where
  registry := diagram.registry_updateProperties id updates
  outline := by rw [outline, outline, elements_updateProperties]
  log := by
    rw [updateProperties]
    split
    · exact List.prefix_append _ _
    · exact List.prefix_rfl
  slice other apart := by rw [slice_updateProperties, if_neg fun same => apart same.1]

end Frame

/-- Diagrams are alike for an element if only the slices of other elements tell them apart. -/
structure AlikeFor (id : ElementId) (first second : Diagram) : Prop where
  registry : first.registry = second.registry
  outline : first.outline = second.outline
  slice : first.slice id = second.slice id

namespace AlikeFor

variable {id : ElementId} {first second : Diagram}

theorem refl (diagram : Diagram) : AlikeFor id diagram diagram := ⟨rfl, rfl, rfl⟩

theorem symm (alike : AlikeFor id first second) : AlikeFor id second first :=
  ⟨alike.registry.symm, alike.outline.symm, alike.slice.symm⟩

theorem trans {third : Diagram} (alike : AlikeFor id first second)
    (further : AlikeFor id second third) : AlikeFor id first third :=
  ⟨alike.registry.trans further.registry, alike.outline.trans further.outline,
    alike.slice.trans further.slice⟩

/-- A change that does not touch the element leaves diagrams alike for it. -/
theorem frame {touched : ElementId → Prop} {after : Diagram} (alike : AlikeFor id first second)
    (change : Frame touched first after) (untouched : ¬ touched id) : AlikeFor id after second :=
  ⟨change.registry.trans alike.registry, change.outline.trans alike.outline,
    (change.slice id untouched).trans alike.slice⟩

section Look

variable (alike : AlikeFor id first second)

include alike

theorem elementType? (other : ElementId) :
    first.elementType? other = second.elementType? other := by
  rw [elementType?_outline, elementType?_outline, alike.outline]

theorem businessObject? : first.businessObject? id = second.businessObject? id :=
  congrArg (fun slice => slice.element.map Element.businessObject) alike.slice

/-- A replacement of the element depends on no other element. -/
theorem replaceObject (object : BusinessObject) :
    AlikeFor id (first.replaceObject id object) (second.replaceObject id object) where
  registry := by rw [registry_replaceObject, registry_replaceObject, alike.registry]
  outline := by rw [outline_replaceObject, outline_replaceObject, alike.outline]
  slice := by rw [slice_replaceObject, slice_replaceObject, alike.slice]

/-- A report on the element depends on no other element. -/
theorem updateProperties (updates : List PropertyUpdate) :
    AlikeFor id (first.updateProperties id updates).1 (second.updateProperties id updates).1 ∧
      (first.updateProperties id updates).2 = (second.updateProperties id updates).2 := by
  refine ⟨⟨?_, ?_, ?_⟩, ?_⟩
  · rw [registry_updateProperties, registry_updateProperties, alike.registry]
  · rw [(frame_updateProperties id updates).outline, (frame_updateProperties id updates).outline,
      alike.outline]
  · rw [slice_updateProperties, slice_updateProperties, alike.slice]
  · have known : first.elements.contains id = second.elements.contains id :=
      congrArg (fun slice => slice.element.isSome) alike.slice
    simp only [Diagram.updateProperties, known]
    split <;> rfl

end Look

end AlikeFor

end Diagram

end PropertyPanel

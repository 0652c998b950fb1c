/-
This file states what a panel relies on in a host and proves it of the diagrams in memory.
-/

import PropertyPanel.Diagram.Locked
import PropertyPanel.Proofs.Dictionary

namespace PropertyPanel

/-- A lawful host keeps the objects that a panel edits, and a refused report changes nothing. -/
class LawfulHost (Host : Type) [DiagramHost Host] : Prop where
  elementType?_isSome : ∀ (host : Host) (id : ElementId),
    (DiagramHost.elementType? host id).isSome = (DiagramHost.businessObject? host id).isSome
  replaceObject_same : ∀ (host : Host) (id : ElementId) (object : BusinessObject),
    DiagramHost.businessObject? host id = some object →
      DiagramHost.replaceObject host id object = host
  businessObject?_replaceObject : ∀ (host : Host) (id other : ElementId)
    (before object : BusinessObject), DiagramHost.businessObject? host id = some before →
      DiagramHost.businessObject? (DiagramHost.replaceObject host id object) other =
        if other = id then some object else DiagramHost.businessObject? host other
  elementType?_replaceObject : ∀ (host : Host) (id other : ElementId) (object : BusinessObject),
    DiagramHost.elementType? (DiagramHost.replaceObject host id object) other =
      DiagramHost.elementType? host other
  businessObject?_updateProperties : ∀ (host : Host) (id other : ElementId)
    (updates : List PropertyUpdate),
    DiagramHost.businessObject? (DiagramHost.updateProperties host id updates).1 other =
      DiagramHost.businessObject? host other
  elementType?_updateProperties : ∀ (host : Host) (id other : ElementId)
    (updates : List PropertyUpdate),
    DiagramHost.elementType? (DiagramHost.updateProperties host id updates).1 other =
      DiagramHost.elementType? host other
  updateProperties_refused : ∀ (host : Host) (id : ElementId) (updates : List PropertyUpdate)
    (error : ApplyError), (DiagramHost.updateProperties host id updates).2 = .error error →
      (DiagramHost.updateProperties host id updates).1 = host

namespace Diagram

variable (diagram : Diagram) (id other : ElementId)

theorem element?_replaceObject (object : BusinessObject) :
    (diagram.replaceObject id object).element? other =
      if other = id then (diagram.element? id).map fun element =>
        { element with businessObject := object }
      else diagram.element? other := by
  unfold replaceObject
  split
  · rename_i element known
    simp only [element?] at known ⊢
    simp [known]
  · rename_i missing
    split
    · rename_i same
      rw [same, missing]
      rfl
    · rfl

/-- The nodes of a diagram are created by its registry. -/
theorem factory_registry : DiagramHost.factory diagram id = diagram.registry := rfl

/-- The object of an element is replaced without a report. -/
theorem mutations_replaceObject (object : BusinessObject) :
    (diagram.replaceObject id object).mutations = diagram.mutations := by
  unfold replaceObject
  split <;> rfl

theorem revision_replaceObject (object : BusinessObject) :
    (diagram.replaceObject id object).revision = diagram.revision := by
  unfold replaceObject
  split <;> rfl

theorem registry_replaceObject (object : BusinessObject) :
    (diagram.replaceObject id object).registry = diagram.registry := by
  unfold replaceObject
  split <;> rfl

theorem registry_updateProperties (updates : List PropertyUpdate) :
    (diagram.updateProperties id updates).1.registry = diagram.registry := by
  simp only [updateProperties]
  split <;> rfl

/-- A report on a known element is never refused. -/
theorem updateProperties_known (known : diagram.elements.contains id = true)
    (updates : List PropertyUpdate) : (diagram.updateProperties id updates).2 = .ok () := by
  simp [updateProperties, known]

/-- A report changes no element. -/
theorem elements_updateProperties (updates : List PropertyUpdate) :
    (diagram.updateProperties id updates).1.elements = diagram.elements := by
  simp only [updateProperties]
  split <;> rfl

instance : LawfulHost Diagram where
  elementType?_isSome diagram id := by
    change (diagram.elementType? id).isSome = (diagram.businessObject? id).isSome
    rw [elementType?, businessObject?, Option.isSome_map, Option.isSome_map]
  replaceObject_same diagram id object present := by
    change diagram.businessObject? id = some object at present
    rw [businessObject?, Option.map_eq_some_iff] at present
    obtain ⟨element, known, same⟩ := present
    subst same
    change diagram.replaceObject id element.businessObject = diagram
    simp only [replaceObject, known]
    rw [Dictionary.insert_same known]
  businessObject?_replaceObject diagram id other before object present := by
    change diagram.businessObject? id = some before at present
    change (diagram.replaceObject id object).businessObject? other = _
    rw [businessObject?, Option.map_eq_some_iff] at present
    obtain ⟨element, known, _⟩ := present
    rw [businessObject?, element?_replaceObject]
    split
    · simp [known]
    · rfl
  elementType?_replaceObject diagram id other object := by
    change (diagram.replaceObject id object).elementType? other = diagram.elementType? other
    rw [elementType?, elementType?, element?_replaceObject]
    split
    · rename_i same
      rw [same, Option.map_map]
      rfl
    · rfl
  businessObject?_updateProperties diagram id other updates := by
    change (diagram.updateProperties id updates).1.businessObject? other = _
    rw [businessObject?, element?, elements_updateProperties]
    rfl
  elementType?_updateProperties diagram id other updates := by
    change (diagram.updateProperties id updates).1.elementType? other = _
    rw [elementType?, element?, elements_updateProperties]
    rfl
  updateProperties_refused diagram id updates error refused := by
    change (diagram.updateProperties id updates).2 = .error error at refused
    change (diagram.updateProperties id updates).1 = diagram
    unfold updateProperties at refused ⊢
    split at refused
    · cases refused
    · rename_i unknown
      rw [if_neg unknown]

end Diagram

namespace LockedDiagram

instance : LawfulHost LockedDiagram where
  elementType?_isSome host id := LawfulHost.elementType?_isSome host.diagram id
  replaceObject_same host id object present :=
    congrArg (LockedDiagram.mk · host.locked)
      (LawfulHost.replaceObject_same host.diagram id object present)
  businessObject?_replaceObject host id other before object present :=
    LawfulHost.businessObject?_replaceObject host.diagram id other before object present
  elementType?_replaceObject host id other object :=
    LawfulHost.elementType?_replaceObject host.diagram id other object
  businessObject?_updateProperties host id other updates := by
    change DiagramHost.businessObject? (host.updateProperties id updates).1.diagram other = _
    unfold updateProperties
    split
    · rfl
    · exact LawfulHost.businessObject?_updateProperties host.diagram id other updates
  elementType?_updateProperties host id other updates := by
    change DiagramHost.elementType? (host.updateProperties id updates).1.diagram other = _
    unfold updateProperties
    split
    · rfl
    · exact LawfulHost.elementType?_updateProperties host.diagram id other updates
  updateProperties_refused host id updates error refused := by
    change (host.updateProperties id updates).2 = .error error at refused
    change (host.updateProperties id updates).1 = host
    unfold updateProperties at refused ⊢
    split at refused
    · rfl
    · have kept := LawfulHost.updateProperties_refused host.diagram id updates error refused
      exact congrArg (LockedDiagram.mk · host.locked) kept

end LockedDiagram

end PropertyPanel

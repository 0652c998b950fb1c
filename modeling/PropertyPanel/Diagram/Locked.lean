/-
This file defines diagrams that refuse changes to some of their fields.
-/

import PropertyPanel.Diagram.Memory

namespace PropertyPanel

structure LockedDiagram where
  diagram : Diagram
  locked : List String

namespace LockedDiagram

/-- The first update of a locked field is the reason of the refusal. -/
def updateProperties (host : LockedDiagram) (id : ElementId) (updates : List PropertyUpdate) :
    LockedDiagram × Except ApplyError Unit :=
  match updates.find? fun update => host.locked.contains update.field with
  | some update => (host, .error (.rejected id (update.field ++ " is locked")))
  | none =>
      let (diagram, outcome) := host.diagram.updateProperties id updates
      ({ host with diagram }, outcome)

instance : DiagramHost LockedDiagram where
  elementType? host := host.diagram.elementType?
  businessObject? host := host.diagram.businessObject?
  factory host _ := host.diagram.registry
  replaceObject host id object :=
    { host with diagram := host.diagram.replaceObject id object }
  updateProperties := updateProperties

end LockedDiagram

end PropertyPanel

/-
This file defines what a panel needs from the owner of a diagram.
-/

import PropertyPanel.Diagram.Registry

namespace PropertyPanel

/-- A host owns the business objects of the elements and is told of every change to them. -/
class DiagramHost (Host : Type) where
  elementType? : Host → ElementId → Option String
  businessObject? : Host → ElementId → Option BusinessObject
  /-- The factory that comes with the business object of an element when it is edited. -/
  factory : Host → ElementId → NodeFactory
  /-- The business object of an element is replaced without a report. -/
  replaceObject : Host → ElementId → BusinessObject → Host
  /-- A report of changes may be refused. -/
  updateProperties : Host → ElementId → List PropertyUpdate → Host × Except ApplyError Unit

inductive HostEvent where
  | importDone
  | selectionChanged (selection : List ElementId)
  deriving DecidableEq

end PropertyPanel

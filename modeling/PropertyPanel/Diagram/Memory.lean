/-
This file defines diagrams that are kept in memory with a log of their changes.
-/

import PropertyPanel.Diagram.Document
import PropertyPanel.Diagram.Host

namespace PropertyPanel

/-- A mutation is a report of changes with the revision that it made. -/
structure Mutation where
  revision : Nat
  element : ElementId
  updates : List PropertyUpdate
  deriving DecidableEq

def Mutation.toJson (mutation : Mutation) : Json :=
  .object [("revision", .ofNat mutation.revision), ("element", .text mutation.element),
    ("updates", .list (mutation.updates.map PropertyUpdate.toJson))]

structure Diagram where
  registry : TypeRegistry
  elements : Dictionary ElementId Element
  revision : Nat
  mutations : List Mutation
  deriving DecidableEq

namespace Diagram

def new (registry : TypeRegistry) : Diagram := ⟨registry, .empty, 0, []⟩

instance : Inhabited Diagram := ⟨new .permissive⟩

/-- Of elements with one identifier the last one counts. -/
def ofDocument (document : DiagramDocument) : Diagram :=
  ⟨document.types, .ofList (document.elements.map fun element => (element.id, element)), 0, []⟩

def toDocument (diagram : Diagram) : DiagramDocument :=
  ⟨diagram.registry, diagram.elements.values⟩

def insert (diagram : Diagram) (element : Element) : Diagram :=
  { diagram with elements := diagram.elements.insert element.id element }

def element? (diagram : Diagram) (id : ElementId) : Option Element := diagram.elements.find? id

def elementType? (diagram : Diagram) (id : ElementId) : Option String :=
  (diagram.element? id).map Element.elementType

def businessObject? (diagram : Diagram) (id : ElementId) : Option BusinessObject :=
  (diagram.element? id).map Element.businessObject

/-- An unknown element has no business object to replace. -/
def replaceObject (diagram : Diagram) (id : ElementId) (object : BusinessObject) : Diagram :=
  match diagram.element? id with
  | some element =>
      { diagram with
        elements := diagram.elements.insert id { element with businessObject := object } }
  | none => diagram

/-- A report on a known element makes a new revision and is logged. -/
def updateProperties (diagram : Diagram) (id : ElementId) (updates : List PropertyUpdate) :
    Diagram × Except ApplyError Unit :=
  if diagram.elements.contains id then
    let revision := diagram.revision + 1
    ({ diagram with
        revision
        mutations := diagram.mutations ++ [⟨revision, id, updates⟩] }, .ok ())
  else (diagram, .error (.unknownElement id))

instance : DiagramHost Diagram where
  elementType? := elementType?
  businessObject? := businessObject?
  factory diagram _ := diagram.registry
  replaceObject := replaceObject
  updateProperties := updateProperties

end Diagram

end PropertyPanel

/-
This file defines diagram documents and their written form.
-/

import PropertyPanel.BusinessObject.Json
import PropertyPanel.Diagram.Registry
import PropertyPanel.Json.Reader

namespace PropertyPanel

structure Element where
  id : ElementId
  elementType : String
  businessObject : BusinessObject
  deriving DecidableEq

namespace Element

/-- The business object of a new element has its type and its identifier. -/
def new (id : ElementId) (elementType : String) : Element :=
  ⟨id, elementType, (BusinessObject.empty elementType).setScalar "id" (some (.text id))⟩

/-- An element has the type of its business object. -/
def ofBusinessObject (id : ElementId) (object : BusinessObject) : Element :=
  ⟨id, object.typeTag, object⟩

def ofSource? (levels : Nat) (source : Source) : Option Element := do
  let parts ← source.record? ["id", "type", "businessObject"]
  let id ← Source.required? parts "id" Source.text?
  let elementType ← Source.required? parts "type" Source.text?
  let value ← Source.required? parts "businessObject" (Source.json? (levels - 1))
  match BusinessObject.ofJson value with
  | .ok object => return ⟨id, elementType, object⟩
  | .error _ => none

def toJson (element : Element) : Json :=
  .object [("id", .text element.id), ("type", .text element.elementType),
    ("businessObject", element.businessObject.toJson)]

end Element

/-- A document lists the known node types and the elements of a diagram. -/
structure DiagramDocument where
  types : TypeRegistry
  elements : List Element
  deriving DecidableEq

namespace DiagramDocument

def empty : DiagramDocument := ⟨.permissive, []⟩

instance : Inhabited DiagramDocument := ⟨empty⟩

def ofSource? (levels : Nat) (source : Source) : Option DiagramDocument := do
  let parts ← source.record? ["types", "elements"]
  let types ← Source.defaulted? parts "types" [] (Source.items? Source.text?)
  let elements ← Source.defaulted? parts "elements" []
    (Source.items? (Element.ofSource? (levels - 2)))
  return ⟨.ofList types, elements⟩

def ofText? (text : String) : Option DiagramDocument :=
  (Json.source? text).bind (ofSource? Source.nestingLimit)

/-- A permissive registry is not written. -/
def toJson (document : DiagramDocument) : Json :=
  .object <|
    (if document.types.isPermissive then []
      else [("types", Json.texts document.types.types.names)]) ++
    [("elements", .list (document.elements.map Element.toJson))]

end DiagramDocument

end PropertyPanel

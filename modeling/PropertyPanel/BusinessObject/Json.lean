/-
This file reads business objects from JSON values and writes them back.
-/

import PropertyPanel.BusinessObject.Basic
import PropertyPanel.Json.Writer

namespace PropertyPanel

namespace BusinessObject

/-- The member that holds the type of a node. -/
def typeName : String := "$type"

/-- The member that holds the text body of a node. -/
def bodyName : String := "$body"

inductive ReadError where
  | missingType
  | notAnObject (found : String)
  | unsupportedValue (property found : String)
  deriving DecidableEq

def ReadError.message : ReadError → String
  | missingType => "Business object is missing its $type tag"
  | notAnObject found => "Expected an object for a business object, found " ++ found
  | unsupportedValue property found =>
      "Unsupported value for property '" ++ property ++ "': " ++ found

/-- The parts of a node that its members have given so far. -/
structure Parts where
  typeTag : Option String
  properties : List (String × Property)
  body : Option String

namespace Parts

def empty : Parts := ⟨none, [], none⟩

/-- A null member leaves no property. -/
def addProperty (parts : Parts) (name : String) : Option Property → Parts
  | some property => { parts with properties := Entries.put name property parts.properties }
  | none => parts

/-- A node needs a type. -/
def build (parts : Parts) : Except ReadError BusinessObject :=
  match parts.typeTag with
  | some typeTag => .ok ⟨typeTag, parts.properties, parts.body⟩
  | none => .error .missingType

end Parts

mutual

/-- The members are read in their order, and the first error ends the reading. -/
def ofMembers (parts : Parts) : List (String × Json) → Except ReadError Parts
  | [] => .ok parts
  | (name, value) :: rest =>
      if name = typeName then ofMembers { parts with typeTag := value.text? } rest
      else if name = bodyName then ofMembers { parts with body := value.text? } rest
      else
        match propertyOf name value with
        | .ok property => ofMembers (parts.addProperty name property) rest
        | .error error => .error error

def propertyOf (name : String) : Json → Except ReadError (Option Property)
  | .null => .ok none
  | .flag value => .ok (some (.scalar (.flag value)))
  | .number value => .ok (some (.scalar (.ofNumber value)))
  | .text value => .ok (some (.scalar (.text value)))
  | .list items =>
      match childrenOf name items with
      | .ok children => .ok (some (.sequence children))
      | .error error => .error error
  | .object members =>
      match ofMembers .empty members with
      | .ok parts => parts.build.map fun child => some (.single child)
      | .error error => .error error

/-- A sequence holds nothing but nodes. -/
def childrenOf (name : String) : List Json → Except ReadError (List BusinessObject)
  | [] => .ok []
  | .object members :: rest =>
      match ofMembers .empty members with
      | .ok parts =>
          match parts.build with
          | .ok child => (childrenOf name rest).map fun children => child :: children
          | .error error => .error error
      | .error error => .error error
  | item :: _ => .error (.unsupportedValue name item.kind)

end

def ofJson : Json → Except ReadError BusinessObject
  | .object members =>
      match ofMembers .empty members with
      | .ok parts => parts.build
      | .error error => .error error
  | value => .error (.notAnObject value.kind)

/-- The members of a node, given its properties in written form. -/
def membersOf (typeTag : String) (properties : List (String × Json)) (body : Option String) :
    List (String × Json) :=
  let members :=
    properties.foldl (fun known entry => Entries.put entry.1 entry.2 known)
      [(typeName, .text typeTag)]
  match body with
  | some body => Entries.put bodyName (.text body) members
  | none => members

mutual

/-- The type comes first, then the properties, then the body. -/
def toJson : BusinessObject → Json
  | ⟨typeTag, properties, body⟩ => .object (membersOf typeTag (propertiesToJson properties) body)

def propertiesToJson : List (String × Property) → List (String × Json)
  | [] => []
  | (name, value) :: rest => (name, propertyToJson value) :: propertiesToJson rest

def propertyToJson : Property → Json
  | .scalar value => value.toJson
  | .single child => toJson child
  | .sequence children => .list (childrenToJson children)

def childrenToJson : List BusinessObject → List Json
  | [] => []
  | child :: rest => toJson child :: childrenToJson rest

end

def text (object : BusinessObject) : String := object.toJson.compact

end BusinessObject

end PropertyPanel

/-
This file defines the tree of typed nodes that a diagram keeps for each of its elements.
-/

import PropertyPanel.Scalar

namespace PropertyPanel

mutual

/-- A node has a type, properties in the order of their first use, and perhaps a text body. -/
structure BusinessObject where
  typeTag : String
  properties : List (String × Property)
  body : Option String

/-- A property holds a scalar, one node, or a sequence of nodes. -/
inductive Property where
  | scalar (value : Scalar)
  | single (child : BusinessObject)
  | sequence (children : List BusinessObject)

end

mutual

def BusinessObject.decideEqual :
    (first second : BusinessObject) → Decidable (first = second)
  | ⟨firstType, firstProperties, firstBody⟩, ⟨secondType, secondProperties, secondBody⟩ =>
      if types : firstType = secondType then
        if bodies : firstBody = secondBody then
          match BusinessObject.decideProperties firstProperties secondProperties with
          | isTrue properties => isTrue (by rw [types, bodies, properties])
          | isFalse different =>
              isFalse fun equal => different (congrArg BusinessObject.properties equal)
        else isFalse fun equal => bodies (congrArg BusinessObject.body equal)
      else isFalse fun equal => types (congrArg BusinessObject.typeTag equal)

def BusinessObject.decideProperties :
    (first second : List (String × Property)) → Decidable (first = second)
  | [], [] => isTrue rfl
  | [], _ :: _ => isFalse (by simp)
  | _ :: _, [] => isFalse (by simp)
  | (firstName, firstValue) :: firstRest, (secondName, secondValue) :: secondRest =>
      if names : firstName = secondName then
        match Property.decideEqual firstValue secondValue,
            BusinessObject.decideProperties firstRest secondRest with
        | isTrue values, isTrue rests => isTrue (by rw [names, values, rests])
        | isFalse different, _ => isFalse fun equal => different (by simp_all)
        | _, isFalse different => isFalse fun equal => different (by simp_all)
      else isFalse fun equal => names (by simp_all)

def Property.decideEqual : (first second : Property) → Decidable (first = second)
  | .scalar first, .scalar second =>
      if values : first = second then isTrue (by rw [values])
      else isFalse fun equal => values (by simp_all)
  | .single first, .single second =>
      match BusinessObject.decideEqual first second with
      | isTrue children => isTrue (by rw [children])
      | isFalse different => isFalse fun equal => different (by simp_all)
  | .sequence first, .sequence second =>
      match BusinessObject.decideChildren first second with
      | isTrue children => isTrue (by rw [children])
      | isFalse different => isFalse fun equal => different (by simp_all)
  | .scalar _, .single _ => isFalse (by simp)
  | .scalar _, .sequence _ => isFalse (by simp)
  | .single _, .scalar _ => isFalse (by simp)
  | .single _, .sequence _ => isFalse (by simp)
  | .sequence _, .scalar _ => isFalse (by simp)
  | .sequence _, .single _ => isFalse (by simp)

def BusinessObject.decideChildren :
    (first second : List BusinessObject) → Decidable (first = second)
  | [], [] => isTrue rfl
  | [], _ :: _ => isFalse (by simp)
  | _ :: _, [] => isFalse (by simp)
  | first :: firstRest, second :: secondRest =>
      match BusinessObject.decideEqual first second,
          BusinessObject.decideChildren firstRest secondRest with
      | isTrue heads, isTrue rests => isTrue (by rw [heads, rests])
      | isFalse different, _ => isFalse fun equal => different (by simp_all)
      | _, isFalse different => isFalse fun equal => different (by simp_all)

end

instance : DecidableEq BusinessObject := BusinessObject.decideEqual

instance : DecidableEq Property := Property.decideEqual

namespace BusinessObject

def empty (typeTag : String) : BusinessObject := ⟨typeTag, [], none⟩

instance : Inhabited BusinessObject := ⟨empty ""⟩

def property? (object : BusinessObject) (name : String) : Option Property :=
  object.properties.lookup name

def names (object : BusinessObject) : List String := object.properties.map Prod.fst

def scalar? (object : BusinessObject) (name : String) : Option Scalar :=
  match object.property? name with
  | some (.scalar value) => some value
  | _ => none

def setProperty (object : BusinessObject) (name : String) (value : Property) : BusinessObject :=
  { object with properties := Entries.put name value object.properties }

def removeProperty (object : BusinessObject) (name : String) : BusinessObject :=
  { object with properties := Entries.erase name object.properties }

/-- An absent value removes the property. -/
def setScalar (object : BusinessObject) (name : String) : Option Scalar → BusinessObject
  | some value => object.setProperty name (.scalar value)
  | none => object.removeProperty name

def setBody (object : BusinessObject) (body : Option String) : BusinessObject :=
  { object with body }

/-- A single node counts as a sequence of one, and a scalar has no nodes. -/
def children (object : BusinessObject) (name : String) : List BusinessObject :=
  match object.property? name with
  | some (.single child) => [child]
  | some (.sequence children) => children
  | _ => []

/-- The node at an index of a property is replaced, and nothing else changes. -/
def replaceChild (object : BusinessObject) (name : String) (index : Nat)
    (child : BusinessObject) : BusinessObject :=
  match object.property? name with
  | some (.single _) => if index = 0 then object.setProperty name (.single child) else object
  | some (.sequence children) => object.setProperty name (.sequence (children.set index child))
  | _ => object

/-- A node joins an existing sequence or else becomes the whole value of the property. -/
def attach (object : BusinessObject) (name : String) (child : BusinessObject) (many : Bool) :
    BusinessObject :=
  if many then
    match object.property? name with
    | some (.sequence children) => object.setProperty name (.sequence (children ++ [child]))
    | _ => object.setProperty name (.sequence [child])
  else object.setProperty name (.single child)

/-- The index among the nodes of the property that an attachment returns for its node. -/
def attachIndex (object : BusinessObject) (name : String) (many : Bool) : Nat :=
  if many then
    match object.property? name with
    | some (.sequence children) => children.length
    | _ => 0
  else 0

/-- A property that loses its last node is removed. -/
def detach (object : BusinessObject) (name : String) (index : Nat) :
    Option (BusinessObject × BusinessObject) :=
  match object.property? name with
  | some (.single child) => if index = 0 then some (child, object.removeProperty name) else none
  | some (.sequence children) =>
      children[index]?.map fun child =>
        let rest := children.eraseIdx index
        (child, if rest.isEmpty then object.removeProperty name
          else object.setProperty name (.sequence rest))
  | _ => none

end BusinessObject

end PropertyPanel

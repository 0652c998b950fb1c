/-
This file defines the steps that lead from a business object to the value of a field.
-/

import PropertyPanel.BusinessObject.Basic

namespace PropertyPanel

/-- The word that stands for the identifier of the field in a location. -/
def fieldIdWord : String := "$id"

/-- A property name is fixed or is the identifier of the field. -/
inductive PropertyName where
  | literal (name : String)
  | fieldId
  deriving DecidableEq

namespace PropertyName

def ofText (text : String) : PropertyName := if text = fieldIdWord then fieldId else literal text

def resolve (field : String) : PropertyName → String
  | literal name => name
  | fieldId => field

def display : PropertyName → String := resolve fieldIdWord

end PropertyName

/-- A condition expects a fixed value or the identifier of the field. -/
inductive Expected where
  | literal (value : Scalar)
  | fieldId
  deriving DecidableEq

namespace Expected

def resolve (field : String) : Expected → Scalar
  | literal value => value
  | fieldId => .text field

/-- Empty values satisfy no condition, and a condition on an empty value has no solution. -/
def accepts (field : String) (expected : Expected) (actual : Scalar) : Bool :=
  !actual.isEmpty &&
    match expected with
    | literal value => !value.isEmpty && value = actual
    | fieldId => !field.isEmpty && actual.text? = some field

def display : Expected → String
  | literal value => value.display
  | fieldId => fieldIdWord

end Expected

/-- A filter lists conditions on the scalars of a node. -/
structure Filter where
  conditions : List (String × Expected)
  deriving DecidableEq

namespace Filter

def none : Filter := ⟨[]⟩

def accepts (field : String) (filter : Filter) (node : BusinessObject) : Bool :=
  filter.conditions.all fun (name, expected) =>
    match node.scalar? name with
    | some actual => expected.accepts field actual
    | Option.none => false

/-- The scalars that a new node gets so that its step can select it. -/
def assignments (field : String) (filter : Filter) : List (String × Scalar) :=
  filter.conditions.map fun (name, expected) => (name, expected.resolve field)

def constrains (filter : Filter) (name : String) : Bool :=
  filter.conditions.any fun condition => condition.1 = name

def isEmpty (filter : Filter) : Bool := filter.conditions.isEmpty

/-- The conditions stand in brackets, and no condition leaves no brackets. -/
def display (filter : Filter) : String :=
  if filter.isEmpty then ""
  else
    let conditions := filter.conditions.map fun (name, expected) => name ++ "=" ++ expected.display
    "[" ++ ",".intercalate conditions ++ "]"

end Filter

inductive Step where
  /-- A typed step selects nodes of its type and can create one. -/
  | child (property : PropertyName) (nodeType : String) (filter : Filter) (many : Bool)
  /-- An untyped step selects nodes of any type and creates none. -/
  | navigate (property : PropertyName) (filter : Filter)
  /-- A leaf step ends at a property of the node itself. -/
  | leaf (property : PropertyName)
  deriving DecidableEq

namespace Step

def property : Step → PropertyName
  | child property _ _ _ => property
  | navigate property _ => property
  | leaf property => property

def isLeaf : Step → Bool
  | leaf _ => true
  | _ => false

def isMany : Step → Bool
  | child _ _ _ many => many
  | _ => false

/-- The filter of a leaf step has no use and is not kept. -/
def filter? : Step → Option Filter
  | child _ _ filter _ => some filter
  | navigate _ filter => some filter
  | leaf _ => none

def accepts (field : String) (step : Step) (node : BusinessObject) : Bool :=
  match step with
  | child _ nodeType filter _ => node.typeTag = nodeType && filter.accepts field node
  | navigate _ filter => filter.accepts field node
  | leaf _ => false

/-- The selected children of all parents, in order. -/
def collect (field : String) (step : Step) (parents : List BusinessObject) : List BusinessObject :=
  (parents.flatMap fun parent => parent.children (step.property.resolve field)).filter
    (step.accepts field)

/-- The place of the first selected child of a parent. -/
def findIndex? (field : String) (step : Step) (parent : BusinessObject) : Option Nat :=
  (parent.children (step.property.resolve field)).findIdx? (step.accepts field)

/-- A vacant node holds nothing but the scalars that let its step select it. -/
def isVacant (step : Step) (node : BusinessObject) : Bool :=
  match step.filter? with
  | some filter => node.body.isNone && node.names.all filter.constrains
  | none => false

def display : Step → String
  | child property nodeType filter many =>
      property.display ++ "<" ++ nodeType ++ ">" ++ (if many then "*" else "") ++ filter.display
  | navigate property filter => property.display ++ filter.display
  | leaf property => "@" ++ property.display

end Step

end PropertyPanel

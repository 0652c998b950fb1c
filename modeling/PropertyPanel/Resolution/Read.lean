/-
This file reads the value of a field at a location of a business object.
-/

import PropertyPanel.Configuration.Basic

namespace PropertyPanel

namespace BusinessObject

/-- A body without text is no leaf. -/
def bodyLeaf? (node : BusinessObject) : Option Scalar :=
  match node.body with
  | some body => if body.isEmpty then none else some (.text body)
  | none => none

end BusinessObject

namespace Property

/-- The leaves of a property are its nonempty scalar or the bodies of its nodes. -/
def leaves : Property → List Scalar
  | scalar value => if value.isEmpty then [] else [value]
  | single child => child.bodyLeaf?.toList
  | sequence children => children.filterMap BusinessObject.bodyLeaf?

end Property

namespace Step

/-- The last step finds leaves below the nodes that the other steps have selected. -/
def leaves (field : String) (step : Step) (nodes : List BusinessObject) : List Scalar :=
  match step with
  | leaf property =>
      (nodes.filterMap fun node => node.property? (property.resolve field)).flatMap Property.leaves
  | _ => (step.collect field nodes).filterMap BusinessObject.bodyLeaf?

end Step

namespace Location

/-- Two leaves are separated by a line break. -/
def leafSeparator : String := "\n"

/-- A single leaf keeps its type, and several leaves are joined as text. -/
def joinLeaves : List Scalar → Option Scalar
  | [] => none
  | [leaf] => some leaf
  | leaves => some (.text (leafSeparator.intercalate (leaves.map Scalar.display)))

/-- The steps select level by level, and the first one that selects nothing ends the selection. -/
def select? (field : String) : List Step → List BusinessObject → Option (List BusinessObject)
  | [], nodes => some nodes
  | step :: rest, nodes =>
      let selected := step.collect field nodes
      if selected.isEmpty then none else select? field rest selected

/-- The steps before the last one select the nodes below which the last one finds leaves. -/
def read (field : String) (location : Location) (node : BusinessObject) : Option Scalar := do
  let last ← location.steps.getLast?
  let nodes ← select? field location.steps.dropLast [node]
  joinLeaves (last.leaves field nodes)

end Location

namespace LocationTable

/-- Nothing is found at an unknown location. -/
def read (table : LocationTable) (node : BusinessObject) (field location : String) :
    Option Scalar :=
  (table.find? location).bind fun location => location.read field node

def isAttribute (table : LocationTable) (location : String) : Bool :=
  ((table.find? location).map Location.isAttribute).getD false

/-- A criterion with a value wants this value, and one without wants any value. -/
def holds (table : LocationTable) (node : BusinessObject) (criterion : Criterion) : Bool :=
  let actual := table.read node criterion.id criterion.location
  match criterion.value with
  | some expected => actual = some expected
  | none => actual.isSome

end LocationTable

end PropertyPanel

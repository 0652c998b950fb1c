/-
This file writes the value of a field at a location and creates the nodes that are missing.
-/

import PropertyPanel.Diagram.Registry
import PropertyPanel.Resolution.Read

namespace PropertyPanel

namespace Location

/-- The value is put below a node, and each step on the way creates a new node. -/
def createBelow (factory : NodeFactory) (field location : String) (value : Scalar) :
    List Step → BusinessObject → Except ApplyError BusinessObject
  | [], node => .ok (node.setBody (some value.display))
  | .leaf property :: _, node => .ok (node.setScalar (property.resolve field) (some value))
  | .navigate property _ :: _, _ => .error (.unreachable location (property.resolve field))
  | .child property nodeType filter many :: rest, node =>
      match factory nodeType (filter.assignments field) with
      | .error error => .error error
      | .ok child =>
          (createBelow factory field location value rest child).map fun child =>
            node.attach (property.resolve field) child many

/-- The first selected child of each step is reused, and an absent value creates nothing. -/
def writeSteps (factory : NodeFactory) (field location : String) (value : Option Scalar) :
    List Step → BusinessObject → BusinessObject × Except ApplyError Unit
  | [], node => (node.setBody (value.map Scalar.display), .ok ())
  | step :: rest, node =>
      let name := step.property.resolve field
      if step.isLeaf then (node.setScalar name value, .ok ())
      else
        match step.findIndex? field node with
        | some index =>
            match (node.children name)[index]? with
            | some child =>
                let (child, outcome) := writeSteps factory field location value rest child
                (node.replaceChild name index child, outcome)
            | none => (node, .ok ())
        | none =>
            match value with
            | none => (node, .ok ())
            | some value =>
                -- All missing nodes are created before the first one is attached.
                match createBelow factory field location value (step :: rest) node with
                | .ok node => (node, .ok ())
                | .error error => (node, .error error)

/-- The name of the location is the one that an error reports. -/
def write (factory : NodeFactory) (field name : String) (value : Option Scalar)
    (location : Location) (node : BusinessObject) : BusinessObject × Except ApplyError Unit :=
  writeSteps factory field name value location.steps node

end Location

namespace LocationTable

/-- A write gives the node as it leaves it, and a write at an unknown location changes nothing. -/
def write (table : LocationTable) (factory : NodeFactory) (node : BusinessObject)
    (field name : String) (value : Option Scalar) : BusinessObject × Except ApplyError Unit :=
  match table.find? name with
  | some location => location.write factory field name value node
  | none => (node, .ok ())

end LocationTable

end PropertyPanel

/-
This file removes the nodes along a location that a cleared value has left vacant.
-/

import PropertyPanel.Resolution.Read

namespace PropertyPanel

namespace Location

/-- A trail lists the steps taken from a node with the index of the child that each one chose. -/
abbrev Trail := List (Step × Nat)

/-- The trail takes the first selected child of each step as far as there is one. -/
def trail (field : String) : List Step → BusinessObject → Trail
  | [], _ => []
  | step :: rest, node =>
      if step.isLeaf then []
      else
        match step.findIndex? field node with
        | none => []
        | some index =>
            match (node.children (step.property.resolve field))[index]? with
            | some child => (step, index) :: trail field rest child
            | none => []

/-- The node at the end of a trail. -/
def follow (field : String) : Trail → BusinessObject → Option BusinessObject
  | [], node => some node
  | (step, index) :: rest, node =>
      (node.children (step.property.resolve field))[index]?.bind (follow field rest)

/-- The node at the end of a trail is replaced. -/
def replaceAt (field : String) : Trail → BusinessObject → BusinessObject → BusinessObject
  | [], replacement, _ => replacement
  | (step, index) :: rest, replacement, node =>
      let name := step.property.resolve field
      match (node.children name)[index]? with
      | some child => node.replaceChild name index (replaceAt field rest replacement child)
      | none => node

/-- The last node of a trail is detached if it is vacant. -/
def detachLast? (field : String) (trail : Trail) (last : Step × Nat) (node : BusinessObject) :
    Option BusinessObject := do
  let parent ← follow field trail node
  let name := last.1.property.resolve field
  let child ← (parent.children name)[last.2]?
  if last.1.isVacant child then
    let (_, parent) ← parent.detach name last.2
    return replaceAt field trail parent node
  else none

/-- Vacant nodes are removed from the end of a reversed trail to the first one that is not vacant. -/
def pruneBack (field : String) (pruned : Bool) (node : BusinessObject) :
    Trail → BusinessObject × Bool
  | [] => (node, pruned)
  | last :: rest =>
      match detachLast? field rest.reverse last node with
      | some node => pruneBack field true node rest
      | none => (node, pruned)

/-- The pruned node, and whether anything was removed. -/
def prune (field : String) (location : Location) (node : BusinessObject) : BusinessObject × Bool :=
  pruneBack field false node (trail field location.steps node).reverse

end Location

namespace LocationTable

/-- Nothing is pruned at an unknown location. -/
def prune (table : LocationTable) (node : BusinessObject) (field location : String) :
    BusinessObject × Bool :=
  match table.find? location with
  | some location => location.prune field node
  | none => (node, false)

end LocationTable

end PropertyPanel

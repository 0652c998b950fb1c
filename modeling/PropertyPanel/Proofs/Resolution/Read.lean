/-
This file proves that the level by level read of a location finds the leaves below each selected
child in turn.
-/

import Mathlib.Data.List.Basic
import PropertyPanel.Proofs.Resolution.Selection

namespace PropertyPanel

namespace Location

variable (field : String)

/-- The nodes that steps select level by level, whether or not there are any. -/
def select (steps : List Step) (nodes : List BusinessObject) : List BusinessObject :=
  steps.foldl (fun selected step => step.collect field selected) nodes

/-- The leaves that the last step of a location finds below what the others select. -/
def leaves (location : Location) (node : BusinessObject) : List Scalar :=
  match location.steps.getLast? with
  | some last => last.leaves field (select field location.steps.dropLast [node])
  | none => []

/-- Nothing is selected below nothing. -/
theorem select_nil (steps : List Step) : select field steps [] = [] := by
  induction steps with
  | nil => rfl
  | cons step rest ih => exact ih

/-- A selection that ends early leaves out no nodes. -/
theorem select?_getD (steps : List Step) (nodes : List BusinessObject) :
    (select? field steps nodes).getD [] = select field steps nodes := by
  induction steps generalizing nodes with
  | nil => rfl
  | cons step rest ih =>
      rw [select, List.foldl_cons, select?]
      split
      · rename_i none
        rw [List.isEmpty_iff.mp none]
        exact (select_nil field rest).symm
      · exact ih _

/-- A read joins the leaves, of which there are none if it ends early. -/
theorem read_leaves (location : Location) (node : BusinessObject) :
    location.read field node = joinLeaves (location.leaves field node) := by
  rw [read, leaves]
  cases location.steps.getLast? with
  | none => rfl
  | some last =>
      dsimp only
      rw [← select?_getD]
      cases select? field location.steps.dropLast [node] with
      | none => cases last <;> rfl
      | some nodes => rfl

/-- The leaves that the steps find below a node, one selected child after the other. -/
def leavesBelow : List Step → BusinessObject → List Scalar
  | [], node => node.bodyLeaf?.toList
  | [.leaf property], node =>
      ((node.property? (property.resolve field)).map Property.leaves).getD []
  | step :: rest, node => (step.selected field node).flatMap (leavesBelow rest)

theorem leavesBelow_leaf (property : PropertyName) (node : BusinessObject) :
    leavesBelow field [.leaf property] node =
      ((node.property? (property.resolve field)).map Property.leaves).getD [] := by
  simp [leavesBelow]

/-- Below a step that is not the leaf at the end are the leaves below its selected children. -/
theorem leavesBelow_step {step : Step} {rest : List Step}
    (inner : step.isLeaf = false ∨ rest ≠ []) (node : BusinessObject) :
    leavesBelow field (step :: rest) node =
      (step.selected field node).flatMap (leavesBelow field rest) := by
  rw [leavesBelow.eq_def]
  split
  · rename_i same
    cases same
  · rename_i property same
    cases same
    simp [Step.isLeaf] at inner
  · rename_i same
    cases same
    rfl

/-- Nothing is found below a node without the property at which the steps begin. -/
theorem leavesBelow_absent {step : Step} {node : BusinessObject}
    (absent : node.property? (step.name field) = none) (rest : List Step) :
    leavesBelow field (step :: rest) node = [] := by
  by_cases inner : step.isLeaf = false ∨ rest ≠ []
  · have childless : step.selected field node = [] := by
      simp [Step.selected, BusinessObject.children, absent]
    rw [leavesBelow_step field inner, childless]
    rfl
  · rw [not_or, not_not] at inner
    cases step with
    | leaf property =>
        rw [inner.2, leavesBelow_leaf]
        exact congrArg (fun held => (held.map Property.leaves).getD []) absent
    | child property nodeType filter many => cases inner.1 rfl
    | navigate property filter => cases inner.1 rfl

/-- The last step finds the leaves below each of the nodes in turn. -/
theorem leaves_last (last : Step) (nodes : List BusinessObject) :
    last.leaves field nodes = nodes.flatMap (leavesBelow field [last]) := by
  have typed (inner : last.isLeaf = false) :
      (last.collect field nodes).filterMap BusinessObject.bodyLeaf? =
        nodes.flatMap (leavesBelow field [last]) := by
    rw [Step.collect_selected, List.filterMap_flatMap]
    refine congrArg nodes.flatMap (funext fun node => ?_)
    rw [leavesBelow_step field (.inl inner), List.filterMap_eq_flatMap_toList]
    rfl
  cases last with
  | leaf property =>
      simp only [Step.leaves]
      clear typed
      induction nodes with
      | nil => rfl
      | cons node rest ih =>
          rw [List.flatMap_cons, ← ih, leavesBelow_leaf]
          cases held : node.property? (property.resolve field) <;> simp [held]
  | child property nodeType filter many => exact typed rfl
  | navigate property filter => exact typed rfl

/-- The steps before the last one select the same nodes level by level and one by one. -/
theorem leaves_select (steps : List Step) (last : Step) (nodes : List BusinessObject) :
    last.leaves field (select field steps nodes) =
      nodes.flatMap (leavesBelow field (steps ++ [last])) := by
  induction steps generalizing nodes with
  | nil => exact leaves_last field last nodes
  | cons step rest ih =>
      rw [select, List.foldl_cons]
      change last.leaves field (select field rest (step.collect field nodes)) = _
      rw [ih, Step.collect_selected, List.flatMap_assoc]
      refine congrArg nodes.flatMap (funext fun node => ?_)
      exact (leavesBelow_step field (.inr (by simp)) node).symm

/-- The leaves of a location are those below the node. -/
theorem leaves_leavesBelow {location : Location} (steps : location.steps ≠ [])
    (node : BusinessObject) :
    location.leaves field node = leavesBelow field location.steps node := by
  have split := List.dropLast_concat_getLast steps
  rw [leaves, List.getLast?_eq_some_getLast steps]
  change (location.steps.getLast steps).leaves field _ = _
  rw [leaves_select, split]
  simp

end Location

end PropertyPanel

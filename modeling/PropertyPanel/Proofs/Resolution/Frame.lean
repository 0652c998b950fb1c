/-
This file proves that an edit along the steps of a location changes no property but the one at which
the steps begin, and that it succeeds if all nodes on its way can be created.
-/

import PropertyPanel.Proofs.Resolution.Edit
import PropertyPanel.Proofs.Resolution.Failure

namespace PropertyPanel

/-- No step on the way needs a node of a type that the registry does not know. -/
def Step.Creatable (registry : TypeRegistry) : Step → Prop
  | child _ nodeType _ _ => registry.knows nodeType = true
  | navigate _ _ => False
  | leaf _ => True

theorem Step.obstacle?_creatable {registry : TypeRegistry} {step : Step}
    (creatable : step.Creatable registry) (field location : String) :
    step.obstacle? registry field location = none := by
  cases step with
  | child property nodeType filter many => exact if_pos creatable
  | navigate property filter => exact creatable.elim
  | leaf property => rfl

namespace Location

variable {registry : TypeRegistry} {field name : String} {value : Option Scalar}

/-- The node after a value is written and the nodes that it leaves vacant are pruned. -/
def editSteps (registry : TypeRegistry) (field name : String) (value : Option Scalar)
    (steps : List Step) (node : BusinessObject) : BusinessObject :=
  let written := (writeSteps registry field name value steps node).1
  if value.isNone then (pruneBelow field steps written).1 else written

/-- Steps whose nodes can be created are no obstacle to a write. -/
theorem writeSteps_creatable {steps : List Step} (chain : Chain steps)
    (creatable : ∀ step ∈ steps, step.Creatable registry) (node : BusinessObject) :
    (writeSteps registry field name value steps node).2 = .ok () := by
  cases value with
  | none => exact clearSteps_done steps node
  | some value =>
      cases outcome : (writeSteps registry field name (some value) steps node).2 with
      | ok _ => rfl
      | error error =>
          have blocked := ((writeSteps_obstacle chain value none node error).mp outcome).2
          obtain ⟨step, left, obstacle⟩ := List.exists_of_findSome?_eq_some blocked
          rw [Step.obstacle?_creatable (creatable step (haltBelow_left step left))] at obstacle
          cases obstacle

section Other

variable {step : Step} {other : String} (different : other ≠ step.name field)

include different

theorem property?_createBelow_other {value : Scalar} {rest : List Step}
    {node created : BusinessObject}
    (done : createBelow registry field name value (step :: rest) node = .ok created) :
    created.property? other = node.property? other := by
  cases step with
  | leaf property =>
      cases done
      exact BusinessObject.property?_setScalar_other different _
  | navigate property filter => cases done
  | child property nodeType filter many =>
      obtain ⟨fresh, below, _, _, same⟩ := createBelow_child done
      rw [same]
      exact BusinessObject.property?_attach_other different below many

theorem property?_writeSteps_other (rest : List Step) (node : BusinessObject) :
    (writeSteps registry field name value (step :: rest) node).1.property? other =
      node.property? other := by
  cases step.descent field node with
  | leaf leaf =>
      rw [writeSteps_leaf registry field name value leaf]
      exact BusinessObject.property?_setScalar_other different value
  | stuck inner missing =>
      cases value with
      | none => rw [writeSteps_absent registry field name inner rest missing]
      | some value =>
          rw [writeSteps_missing registry field name inner rest missing]
          split
          · rename_i created made
            exact property?_createBelow_other different made
          · rfl
  | child inner before child after children found =>
      rw [writeSteps_child registry field name value inner rest found children]
      exact BusinessObject.property?_replaceChild_other different _ _

theorem property?_pruneBelow_other (rest : List Step) (node : BusinessObject) :
    (pruneBelow field (step :: rest) node).1.property? other = node.property? other := by
  rcases pruneBelow_cases field step rest node with same | ⟨_, _, _, dropped | replaced⟩
  · rw [same]
  · rw [dropped, BusinessObject.property?_dropChild_other different]
  · rw [replaced, BusinessObject.property?_replaceChild_other different]

/-- An edit changes no property but the one at which its steps begin. -/
theorem property?_editSteps_other (rest : List Step) (node : BusinessObject) :
    (editSteps registry field name value (step :: rest) node).property? other =
      node.property? other := by
  rw [editSteps]
  split
  · rw [property?_pruneBelow_other different, property?_writeSteps_other different]
  · exact property?_writeSteps_other different rest node

end Other

section Same

variable {step : Step} {node other : BusinessObject}
  (same : node.property? (step.name field) = other.property? (step.name field))

include same

theorem selected_congr : step.selected field node = step.selected field other := by
  rw [Step.selected, Step.selected, BusinessObject.children, BusinessObject.children, same]

/-- What is found along the steps depends only on the property at which they begin. -/
theorem leavesBelow_congr (rest : List Step) :
    leavesBelow field (step :: rest) node = leavesBelow field (step :: rest) other := by
  by_cases inner : step.isLeaf = false ∨ rest ≠ []
  · rw [leavesBelow_step field inner, leavesBelow_step field inner, selected_congr same]
  · rw [not_or, not_not] at inner
    cases step with
    | leaf property =>
        rw [inner.2, leavesBelow_leaf, leavesBelow_leaf]
        exact congrArg (fun held => (held.map Property.leaves).getD []) same
    | child property nodeType filter many => cases inner.1 rfl
    | navigate property filter => cases inner.1 rfl

theorem othersBelow_congr (rest : List Step) :
    othersBelow field (step :: rest) node = othersBelow field (step :: rest) other := by
  rw [othersBelow, othersBelow, selected_congr same]

end Same

end Location

namespace LocationTable

variable {table : LocationTable} {registry : TypeRegistry}

/-- An edit whose nodes can be created succeeds. -/
theorem edit_creatable {draft : Draft} {location : Location}
    (known : table.find? draft.location = some location) (chain : Location.Chain location.steps)
    (creatable : ∀ step ∈ location.steps, step.Creatable registry) (node : BusinessObject) :
    table.edit registry draft node =
      (Location.editSteps registry draft.field draft.location draft.value location.steps node,
        .ok ()) := by
  rcases written : Location.writeSteps registry draft.field draft.location draft.value
    location.steps node with ⟨after, outcome⟩
  have done : outcome = .ok () :=
    (congrArg Prod.snd written).symm.trans (Location.writeSteps_creatable chain creatable node)
  rw [edit, write_known known, Location.editSteps, written, done]
  simp only [prune_known known]
  split <;> rfl

end LocationTable

end PropertyPanel

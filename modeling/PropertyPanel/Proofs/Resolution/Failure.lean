/-
This file proves when a write fails and with which error, and that clearing a value adds no node.
-/

import PropertyPanel.Proofs.Configuration
import PropertyPanel.Proofs.Resolution.Descent

namespace PropertyPanel

namespace Step

/-- The reason why no node can be made for a step of a location. -/
def obstacle? (registry : TypeRegistry) (field location : String) : Step → Option ApplyError
  | child _ nodeType _ _ => if registry.knows nodeType then none else some (.unknownType nodeType)
  | navigate property _ => some (.unreachable location (property.resolve field))
  | leaf _ => none

end Step

namespace BusinessObject

/-- The node at the end of a path that names a property and an index for each step. -/
def nodeAt? : List (String × Nat) → BusinessObject → Option BusinessObject
  | [], node => some node
  | (name, index) :: rest, node => (node.children name)[index]?.bind (nodeAt? rest)

/-- Every node of a tree stands where the other tree has a node of the same type. -/
def Within (after before : BusinessObject) : Prop :=
  ∀ path node, after.nodeAt? path = some node →
    ∃ old, before.nodeAt? path = some old ∧ old.typeTag = node.typeTag

theorem within_refl (node : BusinessObject) : node.Within node := fun _ found held =>
  ⟨found, held, rfl⟩

/-- A tree is within another one if its root and all its children are. -/
theorem within_of_children {after before : BusinessObject} (types : before.typeTag = after.typeTag)
    (children : ∀ (name : String) (index : Nat) (child : BusinessObject),
      (after.children name)[index]? = some child →
        ∃ old, (before.children name)[index]? = some old ∧ child.Within old) :
    after.Within before := by
  intro path node held
  cases path with
  | nil =>
      cases held
      exact ⟨before, rfl, types⟩
  | cons place rest =>
      obtain ⟨name, index⟩ := place
      obtain ⟨child, present, below⟩ := Option.bind_eq_some_iff.mp held
      obtain ⟨old, former, within⟩ := children name index child present
      obtain ⟨found, same, equal⟩ := within rest node below
      exact ⟨found, by rw [nodeAt?, former]; exact same, equal⟩

theorem within_setBody (node : BusinessObject) (body : Option String) :
    (node.setBody body).Within node :=
  within_of_children rfl fun _ _ child present => ⟨child, present, within_refl child⟩

/-- A property that is removed takes its nodes away. -/
theorem within_removeProperty (node : BusinessObject) (name : String) :
    (node.removeProperty name).Within node := by
  refine within_of_children rfl fun other index child present => ⟨child, ?_, within_refl child⟩
  by_cases same : other = name
  · simp [children, same] at present
  · simpa [children, same] using present

theorem within_replaceChild {node child : BusinessObject} {name : String} {index : Nat}
    (present : (node.children name)[index]? = some child) {replacement : BusinessObject}
    (within : replacement.Within child) :
    (node.replaceChild name index replacement).Within node := by
  refine within_of_children (node.typeTag_replaceChild name index replacement).symm ?_
  intro other position found held
  by_cases same : other = name
  · subst same
    rw [children_replaceChild, List.getElem?_set] at held
    split at held
    · rename_i place
      subst place
      split at held
      · cases held
        exact ⟨child, present, within⟩
      · cases held
    · exact ⟨found, held, within_refl found⟩
  · rw [children, property?_replaceChild_other same] at held
    exact ⟨found, held, within_refl found⟩

end BusinessObject

namespace Location

variable {registry : TypeRegistry} {field name : String}

/-- The nodes of a chain are made unless there is an obstacle, and then the first one is the
error. -/
theorem createBelow_obstacle (registry : TypeRegistry) (field name : String) {steps : List Step}
    (chain : Chain steps) (value : Scalar) (node : BusinessObject) (error : ApplyError) :
    createBelow registry field name value steps node = .error error ↔
      steps.findSome? (Step.obstacle? registry field name) = some error := by
  induction chain generalizing node with
  | body => simp [createBelow]
  | leaf property => simp [createBelow, Step.obstacle?]
  | step step rest inner distinct chain ih =>
      cases step with
      | leaf property => cases inner
      | navigate property filter => simp [createBelow, List.findSome?_cons, Step.obstacle?]
      | child property nodeType filter many =>
          cases known : registry.knows nodeType with
          | false => simp [createBelow, TypeRegistry.create, known, Step.obstacle?]
          | true =>
              have made : registry.create nodeType (filter.assignments field) =
                  .ok (TypeRegistry.assign (filter.assignments field) (.empty nodeType)) :=
                if_pos known
              have free : Step.obstacle? registry field name
                  (.child property nodeType filter many) = none := if_pos known
              rw [createBelow, made, List.findSome?_cons, free]
              dsimp only
              rw [Outcome.map_error, ih]

/-- A present value cannot be written exactly if the descent is stuck and there is an obstacle
among the steps that are left, and the first one is the error. -/
theorem writeSteps_obstacle {steps : List Step} (chain : Chain steps) (value : Scalar)
    (last : Option Step) (node : BusinessObject) (error : ApplyError) :
    (writeSteps registry field name (some value) steps node).2 = .error error ↔
      (haltBelow field last steps node).stuck = true ∧
        (haltBelow field last steps node).left.findSome? (Step.obstacle? registry field name) =
          some error := by
  induction chain generalizing last node with
  | body => simp [writeSteps, haltBelow, Halt.stuck]
  | leaf property =>
      have none := Step.selected_leaf field node property
      rw [writeSteps_leaf registry field name _ rfl, haltBelow_missing none]
      simp [Halt.stuck, Step.isLeaf]
  | step step rest inner distinct chain ih =>
      cases step.descent field node with
      | leaf leaf => cases inner.symm.trans leaf
      | stuck inner missing =>
          -- The descent is stuck here, so all that is left to do is to make the missing nodes.
          have none := step.findIndex?_none field node missing
          have made := createBelow_obstacle registry field name
            (.step step rest inner distinct chain) value node error
          rw [writeSteps_missing registry field name inner rest missing, haltBelow_missing none]
          simp only [Halt.stuck, List.head?_cons, Option.any_some, inner, Bool.not_false, true_and]
          rw [← made]
          cases createBelow registry field name value (step :: rest) node <;> simp
      | child inner before child after children found accepted skips =>
          rw [writeSteps_child registry field name _ inner rest found children,
            haltBelow_child children accepted skips]
          exact ih (some step) child

/-- A value is cleared without a failure. -/
theorem clearSteps_done (steps : List Step) (node : BusinessObject) :
    (writeSteps registry field name none steps node).2 = .ok () := by
  induction steps generalizing node with
  | nil => rfl
  | cons step rest ih =>
      cases step.descent field node with
      | leaf leaf => rw [writeSteps_leaf registry field name _ leaf]
      | stuck inner missing => rw [writeSteps_absent registry field name inner rest missing]
      | child inner before child after children found =>
          rw [writeSteps_child registry field name _ inner rest found children]
          exact ih child

/-- A value is cleared without a new node. -/
theorem clearSteps_within (steps : List Step) (node : BusinessObject) :
    (writeSteps registry field name none steps node).1.Within node := by
  induction steps generalizing node with
  | nil => exact node.within_setBody none
  | cons step rest ih =>
      cases step.descent field node with
      | leaf leaf =>
          rw [writeSteps_leaf registry field name _ leaf]
          exact node.within_removeProperty _
      | stuck inner missing =>
          rw [writeSteps_absent registry field name inner rest missing]
          exact node.within_refl
      | child inner before child after children found =>
          rw [writeSteps_child registry field name _ inner rest found children]
          exact BusinessObject.within_replaceChild (by simp [children]) (ih child)

end Location

namespace LocationTable

open Location (noteSteps noteLocation compile_noteSteps)

/-- A write at a compiled location fails exactly if there is a value, the descent is stuck, and a
node cannot be made for one of the steps that are left. The first such step gives the error, and the
tree stays as it was. An absent value is written without a failure and without a new node. -/
theorem write_error_iff (declared : Dictionary String (List StepDeclaration)) (name : String)
    (location : Location) (known : (compile declared).1.find? name = some location)
    (registry : TypeRegistry) (field : String) (value : Option Scalar) (node : BusinessObject) :
    let table := (compile declared).1
    let halt := location.halt field node
    (∀ error, (table.write registry node field name value).2 = .error error ↔
        value.isSome = true ∧ halt.stuck = true ∧
          halt.left.findSome? (Step.obstacle? registry field name) = some error) ∧
      (∀ error, (table.write registry node field name value).2 = .error error →
        (table.write registry node field name value).1 = node) ∧
      (table.write registry node field name none).2 = .ok () ∧
      (table.write registry node field name none).1.Within node := by
  intro table halt
  have chain := (compile_compiled declared name location known).2
  have cleared (node : BusinessObject) :
      (table.write registry node field name none).2 = .ok () := by
    rw [write_known known]
    exact Location.clearSteps_done location.steps node
  refine ⟨fun error => ?_, table.write_failed registry node field name value, cleared node, ?_⟩
  · cases value with
    | none => simp [cleared node]
    | some value =>
        rw [write_known known, Location.writeSteps_obstacle chain value none node error]
        simp [halt, Location.halt]
  · rw [write_known known]
    exact Location.clearSteps_within location.steps node

/-- Of two missing nodes of unknown types the upper one is reported, and the task stays bare. -/
theorem write_error_iff_upper :
    let table := (compile (.ofList [("note", noteSteps)])).1
    table.find? "note" = some noteLocation ∧
      table.write (TypeRegistry.ofList ["Task"]) (.empty "Task") "me" "note" (some (.text "a")) =
        (.empty "Task", .error (.unknownType "Detail")) := by
  obtain ⟨fails, kept, _⟩ := write_error_iff _ "note" noteLocation compile_noteSteps
    (.ofList ["Task"]) "me" (some (.text "a")) (.empty "Task")
  have failed := (fails (.unknownType "Detail")).mpr ⟨rfl, by decide, by decide⟩
  exact ⟨compile_noteSteps, Prod.ext (kept _ failed) failed⟩

end LocationTable

end PropertyPanel

/-
This file proves what a write does to a node when it fails.
-/

import PropertyPanel.Proofs.Resolution.Selection
import PropertyPanel.Resolution.Edit

namespace PropertyPanel

namespace Location

variable (factory : NodeFactory) (field name : String) (value : Option Scalar)

theorem writeSteps_leaf {step : Step} (leaf : step.isLeaf = true) (rest : List Step)
    (node : BusinessObject) :
    writeSteps factory field name value (step :: rest) node =
      (node.setScalar (step.name field) value, .ok ()) := by
  unfold writeSteps
  exact if_pos leaf

/-- A write goes on below the first selected child, which takes its old place afterwards. -/
theorem writeSteps_child {step : Step} (inner : step.isLeaf = false) (rest : List Step)
    {node child : BusinessObject} {before after : List BusinessObject}
    (found : step.findIndex? field node = some before.length)
    (children : node.children (step.name field) = before ++ child :: after) :
    writeSteps factory field name value (step :: rest) node =
      (node.replaceChild (step.name field) before.length
          (writeSteps factory field name value rest child).1,
        (writeSteps factory field name value rest child).2) := by
  have present : (node.children (step.name field))[before.length]? = some child := by
    simp [children]
  rw [writeSteps.eq_def]
  simp only [inner, found, present, Bool.false_eq_true, if_false]

theorem writeSteps_absent {step : Step} (inner : step.isLeaf = false) (rest : List Step)
    {node : BusinessObject} (missing : step.findIndex? field node = none) :
    writeSteps factory field name none (step :: rest) node = (node, .ok ()) := by
  unfold writeSteps
  simp only [inner, missing, Bool.false_eq_true, if_false]

/-- A write that finds no child leaves the node that it creates, or else the old one. -/
theorem writeSteps_missing {step : Step} (inner : step.isLeaf = false) (rest : List Step)
    {node : BusinessObject} (missing : step.findIndex? field node = none) (value : Scalar) :
    writeSteps factory field name (some value) (step :: rest) node =
      match createBelow factory field name value (step :: rest) node with
      | .ok created => (created, .ok ())
      | .error error => (node, .error error) := by
  unfold writeSteps
  cases created : createBelow factory field name value (step :: rest) node with
  | error error => simp only [inner, missing, created, Bool.false_eq_true, if_false]
  | ok child => simp only [inner, missing, created, Bool.false_eq_true, if_false]

/-- A write that fails anywhere on its way leaves the node as it was. -/
theorem writeSteps_failed (steps : List Step) (node : BusinessObject) (error : ApplyError)
    (failed : (writeSteps factory field name value steps node).2 = .error error) :
    (writeSteps factory field name value steps node).1 = node := by
  induction steps generalizing node with
  | nil => cases failed
  | cons step rest ih =>
      cases step.descent field node with
      | leaf leaf =>
          rw [writeSteps_leaf factory field name value leaf] at failed
          cases failed
      | stuck inner missing =>
          cases value with
          | none => rw [writeSteps_absent factory field name inner rest missing]
          | some value =>
              rw [writeSteps_missing factory field name inner rest missing] at failed ⊢
              split at failed
              · cases failed
              · rfl
      | child inner before child after children found =>
          rw [writeSteps_child factory field name value inner rest found children] at failed ⊢
          -- The child comes back as it was and so replaces itself.
          rw [ih child failed]
          exact BusinessObject.replaceChild_same (by simp [children])

variable {field name} {registry : TypeRegistry}

/-- A chain fails for its types or its steps and never for the element that it is created for. -/
theorem createBelow_error {value : Scalar} {steps : List Step} {node : BusinessObject}
    {error : ApplyError} (failed : createBelow registry field name value steps node = .error error)
    (id : ElementId) : error ≠ .unknownElement id := by
  induction steps generalizing node with
  | nil => cases failed
  | cons step rest ih =>
      cases step with
      | leaf property => cases failed
      | navigate property filter =>
          cases failed
          exact ApplyError.noConfusion
      | child property nodeType filter many =>
          rw [createBelow] at failed
          split at failed
          · rename_i stuck unknown
            cases failed
            rw [TypeRegistry.create] at unknown
            split at unknown
            · cases unknown
            · cases unknown
              exact ApplyError.noConfusion
          · rename_i fresh known
            cases below : createBelow registry field name value rest fresh with
            | ok child =>
                rw [below] at failed
                cases failed
            | error stuck =>
                rw [below] at failed
                cases failed
                exact ih below

theorem writeSteps_error {value : Option Scalar} {steps : List Step} {node : BusinessObject}
    {error : ApplyError}
    (failed : (writeSteps registry field name value steps node).2 = .error error)
    (id : ElementId) : error ≠ .unknownElement id := by
  induction steps generalizing node with
  | nil => cases failed
  | cons step rest ih =>
      cases step.descent field node with
      | leaf leaf =>
          rw [writeSteps_leaf registry field name value leaf] at failed
          cases failed
      | stuck inner missing =>
          cases value with
          | none =>
              rw [writeSteps_absent registry field name inner rest missing] at failed
              cases failed
          | some value =>
              rw [writeSteps_missing registry field name inner rest missing] at failed
              split at failed
              · cases failed
              · rename_i stuck created
                cases failed
                exact createBelow_error created id
      | child inner before child after children found =>
          rw [writeSteps_child registry field name value inner rest found children] at failed
          exact ih failed

end Location

namespace LocationTable

variable (table : LocationTable) (factory : NodeFactory)

theorem write_known {table : LocationTable} {name : String} {location : Location}
    (known : table.find? name = some location) (factory : NodeFactory) (node : BusinessObject)
    (field : String) (value : Option Scalar) :
    table.write factory node field name value =
      Location.writeSteps factory field name value location.steps node := by
  rw [write, known]
  rfl

theorem write_failed (node : BusinessObject) (field name : String) (value : Option Scalar)
    (error : ApplyError) (failed : (table.write factory node field name value).2 = .error error) :
    (table.write factory node field name value).1 = node := by
  unfold write at failed ⊢
  split at failed
  · rename_i location known
    exact Location.writeSteps_failed factory field name value location.steps node error failed
  · cases failed

/-- A draft that cannot be written leaves the object as it was. -/
theorem edit_failed (draft : Draft) (node : BusinessObject) (error : ApplyError)
    (failed : (table.edit factory draft node).2 = .error error) :
    (table.edit factory draft node).1 = node := by
  rw [edit] at failed ⊢
  split at failed
  · split at failed <;> cases failed
  · rename_i written stuck outcome
    have kept := table.write_failed factory node draft.field draft.location draft.value stuck
      (congrArg Prod.snd outcome)
    rw [outcome] at kept
    exact kept

/-- The edit of a draft fails for types and steps and never for its element. -/
theorem edit_error {registry : TypeRegistry} {draft : Draft} {node : BusinessObject}
    {error : ApplyError} (failed : (table.edit registry draft node).2 = .error error)
    (id : ElementId) : error ≠ .unknownElement id := by
  rw [edit] at failed
  split at failed
  · split at failed <;> cases failed
  · rename_i written stuck outcome
    cases failed
    unfold write at outcome
    split at outcome
    · exact Location.writeSteps_error (congrArg Prod.snd outcome) id
    · cases outcome

end LocationTable

end PropertyPanel

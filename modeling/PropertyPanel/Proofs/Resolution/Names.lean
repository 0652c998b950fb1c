/-
This file proves that an edit brings no property names into a business object but those of the steps
at which it writes a value.
-/

import PropertyPanel.Proofs.BusinessObject.Names
import PropertyPanel.Proofs.Resolution.Creation
import PropertyPanel.Proofs.Resolution.Edit
import PropertyPanel.Proofs.Resolution.Switch

namespace PropertyPanel

/-- The names of the properties that a step creates where it finds none. -/
def Step.introduces (field : String) : Step → List String
  | child property _ filter _ => property.resolve field :: filter.conditions.map Prod.fst
  | navigate _ _ => []
  | leaf property => [property.resolve field]

namespace Location

variable {registry : TypeRegistry} {field name : String} {allowed : String → Prop}

def introduces (field : String) (location : Location) : List String :=
  location.steps.flatMap (Step.introduces field)

/-- A new node has the names of its scalars. -/
theorem named_create {nodeType : String} {scalars : List (String × Scalar)}
    (permitted : ∀ name ∈ scalars.map Prod.fst, allowed name) {node : BusinessObject}
    (created : registry.create nodeType scalars = .ok node) : node.Named allowed := by
  have assigned (scalars : List (String × Scalar))
      (permitted : ∀ name ∈ scalars.map Prod.fst, allowed name) {node : BusinessObject}
      (named : node.Named allowed) : (TypeRegistry.assign scalars node).Named allowed := by
    induction scalars generalizing node with
    | nil => exact named
    | cons entry rest ih =>
        rw [List.map_cons, List.forall_mem_cons] at permitted
        exact ih permitted.2 (named.setProperty permitted.1 (by simp [Property.nodes]))
  rw [TypeRegistry.create_known created]
  exact assigned scalars permitted (.empty nodeType)

theorem named_createBelow {value : Scalar} {steps : List Step}
    (permitted : ∀ name ∈ steps.flatMap (Step.introduces field), allowed name)
    {node created : BusinessObject} (named : node.Named allowed)
    (done : createBelow registry field name value steps node = .ok created) :
    created.Named allowed := by
  induction steps generalizing node created with
  | nil =>
      cases done
      exact named.setBody _
  | cons step rest ih =>
      rw [List.flatMap_cons, List.forall_mem_append] at permitted
      cases step with
      | leaf property =>
          cases done
          exact named.setScalar fun _ => permitted.1 _ (List.mem_singleton.mpr rfl)
      | navigate property filter => cases done
      | child property nodeType filter many =>
          obtain ⟨fresh, below, known, inside, same⟩ := createBelow_child done
          rw [Step.introduces, List.forall_mem_cons] at permitted
          have first : fresh.Named allowed :=
            named_create (by rw [Filter.fst_assignments]; exact permitted.1.2) known
          rw [same]
          exact named.attach permitted.1.1 (ih permitted.2 first inside) many

/-- A write brings in the names of its steps, and a clearing brings in none. -/
theorem named_writeSteps {value : Option Scalar} {steps : List Step}
    (permitted : value.isSome = true →
      ∀ name ∈ steps.flatMap (Step.introduces field), allowed name)
    {node : BusinessObject} (named : node.Named allowed) :
    (writeSteps registry field name value steps node).1.Named allowed := by
  induction steps generalizing node with
  | nil => exact named.setBody _
  | cons step rest ih =>
      cases step.descent field node with
      | leaf leaf =>
          rw [writeSteps_leaf registry field name value leaf]
          cases step with
          | leaf property =>
              refine named.setScalar fun valued => permitted valued _ ?_
              rw [List.flatMap_cons]
              exact List.mem_append_left _ (List.mem_singleton.mpr rfl)
          | child property nodeType filter many => cases leaf
          | navigate property filter => cases leaf
      | stuck inner missing =>
          cases value with
          | none => rwa [writeSteps_absent registry field name inner rest missing]
          | some value =>
              rw [writeSteps_missing registry field name inner rest missing]
              split
              · rename_i created done
                exact named_createBelow (permitted rfl) named done
              · exact named
      | child inner before child after children found =>
          rw [writeSteps_child registry field name value inner rest found children]
          have present : (node.children (step.name field))[before.length]? = some child := by
            simp [children]
          have later : value.isSome = true →
              ∀ name ∈ rest.flatMap (Step.introduces field), allowed name := by
            intro valued other listed
            refine permitted valued other ?_
            rw [List.flatMap_cons]
            exact List.mem_append_right _ listed
          exact named.replaceChild present
            (ih later (named.children (List.mem_of_getElem? present)))

theorem named_pruneBelow (steps : List Step) {node : BusinessObject}
    (named : node.Named allowed) : (pruneBelow field steps node).1.Named allowed := by
  induction steps generalizing node with
  | nil => exact named
  | cons step rest ih =>
      rcases pruneBelow_cases field step rest node with
        same | ⟨_, _, present, dropped | replaced⟩
      · rwa [same]
      · rw [dropped]
        exact named.dropChild present
      · rw [replaced]
        exact named.replaceChild present (ih (named.children (List.mem_of_getElem? present)))

end Location

namespace LocationTable

variable {table : LocationTable} (registry : TypeRegistry) {allowed : String → Prop}

/-- An update needs permission for the names that its location introduces if it has a value. -/
def Permits (table : LocationTable) (allowed : String → Prop) (update : PropertyUpdate) : Prop :=
  update.value.isSome = true → ∀ location, table.find? update.location = some location →
    ∀ name ∈ location.introduces update.field, allowed name

theorem named_write {update : PropertyUpdate} (permitted : table.Permits allowed update)
    {node : BusinessObject} (named : node.Named allowed) :
    (table.write registry node update.field update.location update.value).1.Named allowed := by
  unfold LocationTable.write
  split
  · rename_i location known
    exact Location.named_writeSteps (fun valued => permitted valued location known) named
  · exact named

theorem named_edit {draft : Draft} (permitted : table.Permits allowed draft.update)
    {node : BusinessObject} (named : node.Named allowed) :
    (table.edit registry draft node).1.Named allowed := by
  have written : (table.write registry node draft.field draft.location draft.value).1.Named
      allowed :=
    named_write registry permitted named
  unfold edit
  split
  · rename_i after outcome
    rw [outcome] at written
    split
    · unfold LocationTable.prune
      split
      · rw [Location.prune_pruneBelow]
        exact Location.named_pruneBelow _ written
      · exact written
    · exact written
  · rename_i after error outcome
    rw [outcome] at written
    exact written

theorem named_replay {updates : List PropertyUpdate}
    (permitted : ∀ update ∈ updates, table.Permits allowed update) {node : BusinessObject}
    (named : node.Named allowed) : (table.replay registry updates node).Named allowed := by
  induction updates generalizing node with
  | nil => exact named
  | cons update rest ih =>
      rw [List.forall_mem_cons] at permitted
      exact ih permitted.2 (named_write registry permitted.1 named)

theorem prefix_completed (updates : List PropertyUpdate) (node : BusinessObject) :
    table.completed registry updates node <+: updates := by
  induction updates generalizing node with
  | nil => exact List.prefix_rfl
  | cons update rest ih =>
      rw [completed]
      dsimp only
      split
      · exact List.prefix_cons_inj update |>.mpr (ih _)
      · exact List.nil_prefix

/-- A clearing needs no permission. -/
theorem permits_clearings (criteria : List Criterion) (node : BusinessObject) :
    ∀ update ∈ table.clearings registry criteria node, table.Permits allowed update := by
  induction criteria generalizing node with
  | nil => simp [clearings]
  | cons criterion rest ih =>
      rw [clearings]
      split
      · exact List.forall_mem_cons.mpr ⟨fun valued => (by cases valued), ih _⟩
      · exact ih node

/-- A switch brings in the names at which the criteria of the wanted subtype are written. -/
theorem named_switchTo {element : ElementConfiguration} {target : String}
    (permitted : ∀ wanted, element.subtype? target = some wanted →
      ∀ update ∈ fitting wanted, table.Permits allowed update)
    {node : BusinessObject} (named : node.Named allowed) :
    (table.switchTo registry element target node).1.Named allowed := by
  rw [switchTo_performed, performed]
  split
  · rename_i wanted known
    refine named_replay registry (fun update listed => ?_) named
    cases List.mem_append.mp listed with
    | inl clearing => exact permits_clearings registry _ node update clearing
    | inr written =>
        exact permitted wanted known update ((prefix_completed registry _ _).subset written)
  · exact named

end LocationTable

end PropertyPanel

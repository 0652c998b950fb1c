/-
This file proves which nodes on the way of a write the steps that lead to them still accept.
-/

import PropertyPanel.Proofs.Resolution.Creation
import PropertyPanel.Proofs.Resolution.Write

namespace PropertyPanel.Location

variable (field : String)

/-- A step accepts a node still after the value is written below it along the rest of the steps. -/
def keeps (value : Option Scalar) (step : Step) (rest : List Step) : Bool :=
  rest.head?.all fun next =>
    step.permits field (next.name field) (if next.isLeaf then value else none)

/-- Each step accepts what is made for it and what it leads to when the value is written. -/
def selects (value : Option Scalar) : List Step → Bool
  | [] => true
  | step :: rest => step.solvable field && keeps field value step rest && selects value rest

variable {field} {registry : TypeRegistry} {name : String}

theorem accepts_createBelow {value : Scalar} {step : Step} {rest : List Step}
    {node created : BusinessObject} (accepted : step.accepts field node = true)
    (done : createBelow registry field name value rest node = .ok created) :
    step.accepts field created = keeps field (some value) step rest := by
  cases rest with
  | nil =>
      cases done
      exact accepted
  | cons next later =>
      cases next with
      | leaf property =>
          cases done
          exact Step.accepts_setScalar accepted _ _
      | navigate property filter => cases done
      | child property nodeType filter many =>
          obtain ⟨fresh, below, _, _, same⟩ := createBelow_child done
          rw [same]
          exact Step.accepts_attach accepted _ below many

/-- A step accepts a node that it makes, with the rest of the steps made below it, if it is
solvable and keeps the node. -/
theorem accepts_created {value : Scalar} {property : PropertyName} {nodeType : String}
    {filter : Filter} {many : Bool} {rest : List Step} {fresh below : BusinessObject}
    (distinct : (Step.child property nodeType filter many).Distinct)
    (known : registry.create nodeType (filter.assignments field) = .ok fresh)
    (inside : createBelow registry field name value rest fresh = .ok below) :
    (Step.child property nodeType filter many).accepts field below =
      ((Step.child property nodeType filter many).solvable field &&
        keeps field (some value) (.child property nodeType filter many) rest) := by
  cases solvable : (Step.child property nodeType filter many).solvable field with
  | true =>
      have accepted := Step.create_accepted distinct solvable known
      rw [accepts_createBelow accepted inside, Bool.true_and]
  | false =>
      rw [Bool.false_and, ← Bool.not_eq_true]
      intro accepted
      rw [Step.solvable_of_accepts accepted] at solvable
      cases solvable

/-- Where a step selects nothing, the node that is made for it comes behind the others, and the step
selects it if it is solvable and keeps the node. -/
theorem createBelow_first {value : Scalar} {step : Step} {rest : List Step}
    (inner : step.isLeaf = false) (distinct : step.Distinct) {node created : BusinessObject}
    (missing : step.selected field node = [])
    (done : createBelow registry field name value (step :: rest) node = .ok created) :
    ∃ fresh below before, (∀ next : Step, next.selected field fresh = []) ∧
      createBelow registry field name value rest fresh = .ok below ∧
      created.children (step.name field) = before ++ [below] ∧
      (∀ old ∈ before, step.accepts field old = false) ∧
      step.accepts field below = (step.solvable field && keeps field (some value) step rest) := by
  cases step with
  | leaf property => cases inner
  | navigate property filter => cases done
  | child property nodeType filter many =>
      obtain ⟨fresh, below, known, inside, same⟩ := createBelow_child done
      obtain ⟨before, children, _, old⟩ :=
        node.children_attach_last (property.resolve field) below many
      refine ⟨fresh, below, before, Step.create_selected known, inside, same ▸ children, ?_,
        accepts_created distinct known inside⟩
      intro skipped listed
      simpa using List.filter_eq_nil_iff.mp missing skipped (old skipped listed)

/-- A step accepts a node after a value is written below it exactly if it keeps the node. -/
theorem accepts_writeSteps {value : Scalar} {step : Step} {rest : List Step}
    {node : BusinessObject} (accepted : step.accepts field node = true)
    (done : (writeSteps registry field name (some value) rest node).2 = .ok ()) :
    step.accepts field (writeSteps registry field name (some value) rest node).1 =
      keeps field (some value) step rest := by
  cases rest with
  | nil => exact accepted
  | cons next later =>
      cases next.descent field node with
      | leaf leaf =>
          rw [writeSteps_leaf registry field name _ leaf, Step.accepts_setScalar accepted]
          simp [keeps, leaf]
      | stuck inner missing =>
          rw [writeSteps_missing registry field name inner later missing] at done ⊢
          split at done
          · rename_i created made
            exact accepts_createBelow accepted made
          · cases done
      | child inner before child after children found =>
          rw [writeSteps_child registry field name _ inner later found children]
          rw [Step.accepts_same (BusinessObject.sameScalars_replaceChild node _ _ _), accepted]
          -- The next step has a child, so there is no scalar of its name.
          cases kept : step.permits field (next.name field) none with
          | true => simp [keeps, inner, kept]
          | false =>
              rw [Step.childless_of_accepts accepted kept] at children
              simp at children

/-- A step accepts a node after a value is cleared below it if it keeps the node. -/
theorem accepts_clearSteps {step : Step} {rest : List Step} {node : BusinessObject}
    (accepted : step.accepts field node = true) (kept : keeps field none step rest = true) :
    step.accepts field (writeSteps registry field name none rest node).1 = true := by
  cases rest with
  | nil => exact accepted
  | cons next later =>
      cases next.descent field node with
      | leaf leaf =>
          rw [writeSteps_leaf registry field name _ leaf, Step.accepts_setScalar accepted]
          simpa [keeps, leaf] using kept
      | stuck inner missing =>
          rw [writeSteps_absent registry field name inner later missing]
          exact accepted
      | child inner before child after children found =>
          rw [writeSteps_child registry field name _ inner later found children]
          rw [Step.accepts_same (BusinessObject.sameScalars_replaceChild node _ _ _)]
          exact accepted

/-- A step keeps no node that it does not accept after a write below it. -/
theorem keeps_unaccepted {value : Option Scalar} {step : Step} {rest : List Step}
    {node : BusinessObject} (accepted : step.accepts field node = true)
    (done : (writeSteps registry field name value rest node).2 = .ok ())
    (lost : step.accepts field (writeSteps registry field name value rest node).1 = false) :
    keeps field value step rest = false := by
  cases value with
  | none =>
      rw [← Bool.not_eq_true]
      intro kept
      rw [accepts_clearSteps accepted kept] at lost
      cases lost
  | some value => rwa [accepts_writeSteps accepted done] at lost

end PropertyPanel.Location

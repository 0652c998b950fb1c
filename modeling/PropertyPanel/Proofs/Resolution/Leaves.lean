/-
This file proves which leaves a read finds at a location after a write at it.
-/

import PropertyPanel.Proofs.Number.Integer
import PropertyPanel.Proofs.Resolution.Acceptance

namespace PropertyPanel

/-- The display text of a value that is not empty is not empty. -/
theorem Scalar.display_filled {value : Scalar} (filled : value.isEmpty = false) :
    value.display.isEmpty = false := by
  cases value with
  | flag value => cases value <;> decide
  | integer value => exact Integer.isEmpty_toString value.toInt
  | text value => exact filled

namespace Location

/-- The steps of a chain end at a leaf or at the body of the node that the last one selects. -/
inductive Chain : List Step → Prop
  | body : Chain []
  | leaf (property : PropertyName) : Chain [.leaf property]
  | step (step : Step) (rest : List Step) (inner : step.isLeaf = false)
      (distinct : step.Distinct) (chain : Chain rest) : Chain (step :: rest)

variable (field : String)

/-- A leaf holds a value itself, and a body holds its display text. -/
def writtenLeaf (value : Option Scalar) : List Step → Option Scalar
  | [] => value.map fun value => .text value.display
  | [.leaf _] => value
  | _ :: rest => writtenLeaf value rest

/-- A written value is found again if the steps select the node that holds it. -/
def foundLeaf (value : Option Scalar) (steps : List Step) : Option Scalar :=
  if selects field value steps then writtenLeaf value steps else none

/-- A read finds a leaf unless it holds the empty text. -/
def visible (leaf : Option Scalar) : Option Scalar := leaf.filter fun held => !held.isEmpty

/-- The leaves below all selected nodes but those on the way of a write. -/
def othersBelow : List Step → BusinessObject → List Scalar
  | [], _ => []
  | step :: rest, node =>
      match step.selected field node with
      | [] => []
      | first :: others => othersBelow rest first ++ others.flatMap (leavesBelow field rest)

variable {field} {registry : TypeRegistry} {name : String}

theorem leaves_setBody (value : Option Scalar) (node : BusinessObject) :
    leavesBelow field [] (node.setBody (value.map Scalar.display)) =
      (visible (writtenLeaf value [])).toList := by
  cases value with
  | none => rfl
  | some value =>
      simp only [leavesBelow, writtenLeaf, BusinessObject.setBody, BusinessObject.bodyLeaf?,
        Option.map_some, visible, Option.filter_some, Scalar.isEmpty]
      by_cases empty : value.display.isEmpty = true <;> simp [empty]

theorem leaves_setScalar (value : Option Scalar) (property : PropertyName)
    (node : BusinessObject) :
    leavesBelow field [.leaf property] (node.setScalar (property.resolve field) value) =
      (visible (writtenLeaf value [.leaf property])).toList := by
  rw [leavesBelow_leaf, BusinessObject.property?_setScalar, if_pos rfl]
  cases value with
  | none => rfl
  | some value =>
      simp only [writtenLeaf, Property.leaves, Option.map_some, Option.getD_some, visible,
        Option.filter_some]
      cases value.isEmpty <;> simp

theorem writtenLeaf_step {step : Step} (inner : step.isLeaf = false) (value : Option Scalar)
    (rest : List Step) : writtenLeaf value (step :: rest) = writtenLeaf value rest := by
  cases step with
  | leaf property => cases inner
  | child property nodeType filter many => rfl
  | navigate property filter => rfl

theorem foundLeaf_step {step : Step} (inner : step.isLeaf = false) {value : Option Scalar}
    {rest : List Step} (solvable : step.solvable field = true)
    (kept : keeps field value step rest = true) :
    foundLeaf field value (step :: rest) = foundLeaf field value rest := by
  rw [foundLeaf, foundLeaf, selects, solvable, kept, Bool.true_and, Bool.true_and,
    writtenLeaf_step inner]

/-- A value is not found again if a step does not accept the node that leads to it. -/
theorem foundLeaf_dropped {step : Step} {value : Option Scalar} {rest : List Step}
    (dropped : (step.solvable field && keeps field value step rest) = false) :
    foundLeaf field value (step :: rest) = none := by
  rw [foundLeaf, selects, dropped, Bool.false_and]
  rfl

theorem foundLeaf_body (value : Option Scalar) :
    foundLeaf field value [] = writtenLeaf value [] := rfl

theorem foundLeaf_leaf (value : Option Scalar) (property : PropertyName) :
    foundLeaf field value [.leaf property] = writtenLeaf value [.leaf property] := rfl

theorem writtenLeaf_none (steps : List Step) : writtenLeaf none steps = none := by
  induction steps with
  | nil => rfl
  | cons step rest ih =>
      rw [writtenLeaf.eq_def]
      split
      · rfl
      · rfl
      · rename_i same
        cases same
        exact ih

theorem foundLeaf_none (steps : List Step) : foundLeaf field none steps = none := by
  rw [foundLeaf, writtenLeaf_none, ite_self]

/-- What is found below a node that a step still accepts after a write is found below the step. -/
theorem foundLeaf_accepted {step : Step} (inner : step.isLeaf = false) {value : Option Scalar}
    {rest : List Step} {node : BusinessObject} (accepted : step.accepts field node = true)
    (done : (writeSteps registry field name value rest node).2 = .ok ())
    (still : step.accepts field (writeSteps registry field name value rest node).1 = true) :
    foundLeaf field value (step :: rest) = foundLeaf field value rest := by
  cases value with
  | none => rw [foundLeaf_none, foundLeaf_none]
  | some value =>
      rw [accepts_writeSteps accepted done] at still
      exact foundLeaf_step inner (Step.solvable_of_accepts accepted) still

/-- The written leaf is the value or its display text. -/
theorem writtenLeaf_cases (value : Option Scalar) (steps : List Step) :
    writtenLeaf value steps = value ∨
      writtenLeaf value steps = value.map fun value => .text value.display := by
  induction steps with
  | nil => exact .inr rfl
  | cons step rest ih =>
      rw [writtenLeaf.eq_def]
      split
      · exact .inr rfl
      · exact .inl rfl
      · rename_i same
        cases same
        exact ih

/-- A written value that is not empty is visible. -/
theorem visible_foundLeaf {value : Option Scalar} (filled : ∀ held ∈ value, held.isEmpty = false)
    (steps : List Step) : visible (foundLeaf field value steps) = foundLeaf field value steps := by
  have written : visible (writtenLeaf value steps) = writtenLeaf value steps := by
    cases value with
    | none => rw [writtenLeaf_none, visible, Option.filter_none]
    | some value =>
        have held : value.isEmpty = false := filled value rfl
        rcases writtenLeaf_cases (some value) steps with same | same
        · simp [same, visible, Option.filter_some, held]
        · simp [same, visible, Option.filter_some, Scalar.isEmpty, Scalar.display_filled held]
  rw [foundLeaf]
  split
  · exact written
  · rfl

/-- A chain that is created where nothing is selected has no leaf but the written value. -/
theorem createBelow_leaves {value : Scalar} {steps : List Step} (chain : Chain steps)
    {node created : BusinessObject}
    (missing : ∀ step ∈ steps.head?, step.selected field node = [])
    (done : createBelow registry field name value steps node = .ok created) :
    leavesBelow field steps created =
      (visible (foundLeaf field (some value) steps)).toList := by
  induction chain generalizing node created with
  | body =>
      cases done
      rw [foundLeaf_body]
      exact leaves_setBody (some value) node
  | leaf property =>
      cases done
      rw [foundLeaf_leaf]
      exact leaves_setScalar (some value) property node
  | step step rest inner distinct chain ih =>
      obtain ⟨fresh, below, before, bare, inside, children, skips, accepted⟩ :=
        createBelow_first inner distinct (missing step rfl) done
      rw [leavesBelow_step field (.inl inner), step.selected_child field created children skips]
      cases kept : step.accepts field below with
      | true =>
          rw [List.filter_cons_of_pos kept, List.filter_nil, List.flatMap_singleton]
          rw [accepted, Bool.and_eq_true] at kept
          rw [foundLeaf_step inner kept.1 kept.2]
          -- The next step selects nothing below the new node.
          exact ih (fun next _ => bare next) inside
      | false =>
          rw [List.filter_cons_of_neg (by simp [kept])]
          rw [accepted] at kept
          rw [foundLeaf_dropped kept]
          rfl

/-- A single leaf or none is joined to itself. -/
theorem joinLeaves_toList (leaf : Option Scalar) : joinLeaves leaf.toList = leaf := by
  cases leaf <;> rfl

theorem othersBelow_missing {step : Step} {rest : List Step} {node : BusinessObject}
    (missing : step.selected field node = []) : othersBelow field (step :: rest) node = [] := by
  rw [othersBelow, missing]

/-- No leaf is passed by below a node that its step does not keep. -/
theorem othersBelow_dropped {value : Option Scalar} {step : Step} {rest : List Step}
    {node : BusinessObject} (accepted : step.accepts field node = true)
    (dropped : keeps field value step rest = false) : othersBelow field rest node = [] := by
  cases rest with
  | nil => rfl
  | cons next later =>
      refine othersBelow_missing ?_
      cases ends : next.isLeaf with
      | true =>
          cases next with
          | leaf property => exact Step.selected_leaf field node property
          | child property nodeType filter many => cases ends
          | navigate property filter => cases ends
      | false =>
          have tested : step.permits field (next.name field) none = false := by
            simpa [keeps, ends] using dropped
          rw [Step.selected, Step.childless_of_accepts accepted tested]
          rfl

/-- After a write a read finds the written value, if it is not empty and the steps select the node
that holds it, and the leaves that the write has passed by. -/
theorem writeSteps_visible (value : Option Scalar) {steps : List Step} (chain : Chain steps)
    (node : BusinessObject) (done : (writeSteps registry field name value steps node).2 = .ok ()) :
    leavesBelow field steps (writeSteps registry field name value steps node).1 =
      (visible (foundLeaf field value steps)).toList ++ othersBelow field steps node := by
  induction chain generalizing node with
  | body =>
      rw [othersBelow, List.append_nil, foundLeaf_body]
      exact leaves_setBody value node
  | leaf property =>
      have ends : (Step.leaf property).isLeaf = true := rfl
      rw [writeSteps_leaf registry field name value ends, foundLeaf_leaf]
      rw [othersBelow_missing (Step.selected_leaf field node property), List.append_nil]
      exact leaves_setScalar value property node
  | step step rest inner distinct chain ih =>
      cases step.descent field node with
      | leaf leaf => cases inner.symm.trans leaf
      | stuck inner missing =>
          have none := step.findIndex?_none field node missing
          rw [othersBelow_missing none, List.append_nil]
          cases value with
          | none =>
              rw [writeSteps_absent registry field name inner rest missing, foundLeaf_none]
              rw [leavesBelow_step field (.inl inner), none]
              rfl
          | some value =>
              rw [writeSteps_missing registry field name inner rest missing] at done ⊢
              split at done
              · rename_i created made
                exact createBelow_leaves (.step step rest inner distinct chain)
                  (by simpa using none) made
              · cases done
      | child inner before child after children found accepted skips =>
          rw [writeSteps_child registry field name value inner rest found children] at done ⊢
          have below := ih child done
          have selected := step.selected_child field _
            (step.children_replaceFirst field node children
              (writeSteps registry field name value rest child).1) skips
          have passed : othersBelow field (step :: rest) node = othersBelow field rest child ++
              (after.filter (step.accepts field)).flatMap (leavesBelow field rest) := by
            rw [othersBelow, step.selected_child field node children skips,
              List.filter_cons_of_pos accepted]
          rw [leavesBelow_step field (.inl inner), selected, passed]
          cases still : step.accepts field (writeSteps registry field name value rest child).1 with
          | true =>
              -- The written child keeps its place as the first one that the step selects.
              rw [List.filter_cons_of_pos still, List.flatMap_cons, below, List.append_assoc,
                foundLeaf_accepted inner accepted done still]
          | false =>
              -- The step does not find the way to the written value again.
              have lost := keeps_unaccepted accepted done still
              rw [List.filter_cons_of_neg (by simp [still]), othersBelow_dropped accepted lost,
                foundLeaf_dropped (by rw [lost, Bool.and_false])]
              rfl

/-- A written value that is not empty is found if the steps select the node that holds it. -/
theorem writeSteps_leaves (value : Option Scalar) (filled : ∀ held ∈ value, held.isEmpty = false)
    {steps : List Step} (chain : Chain steps) (node : BusinessObject)
    (done : (writeSteps registry field name value steps node).2 = .ok ()) :
    leavesBelow field steps (writeSteps registry field name value steps node).1 =
      (foundLeaf field value steps).toList ++ othersBelow field steps node := by
  rw [writeSteps_visible value chain node done, visible_foundLeaf filled]

end Location

end PropertyPanel

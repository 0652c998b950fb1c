/-
This file proves that a read finds a written value first and then the leaves of the end nodes that
the write has not reached.
-/

import PropertyPanel.Proofs.Configuration
import PropertyPanel.Proofs.Resolution.Descent
import PropertyPanel.Proofs.Resolution.Edit

namespace PropertyPanel

namespace Location

variable (field : String)

/-- The nodes below which a read finds the leaves, in the order of the read. -/
def endNodes (steps : List Step) (node : BusinessObject) : List BusinessObject :=
  select field (steps.filter fun step => !step.isLeaf) [node]

/-- The leaves of one end node are those of its property or its body. -/
def endLeaves (steps : List Step) (node : BusinessObject) : List Scalar :=
  leavesBelow field (steps.filter Step.isLeaf) node

/-- Steps select the same nodes from several nodes and from one after the other. -/
theorem select_nodes (steps : List Step) (nodes : List BusinessObject) :
    select field steps nodes = nodes.flatMap fun node => select field steps [node] := by
  induction steps generalizing nodes with
  | nil => simp [select]
  | cons step rest ih =>
      have first (nodes : List BusinessObject) : select field (step :: rest) nodes =
          select field rest (step.collect field nodes) := rfl
      rw [first, ih, Step.collect_selected, List.flatMap_assoc]
      refine congrArg nodes.flatMap (funext fun node => ?_)
      rw [first, ih, Step.collect_selected, List.flatMap_singleton]

variable {field} {step : Step} (inner : step.isLeaf = false)

include inner

/-- The end nodes below a node are those below each of its selected children in turn. -/
theorem endNodes_step (rest : List Step) (node : BusinessObject) :
    endNodes field (step :: rest) node =
      (step.selected field node).flatMap (endNodes field rest) := by
  rw [endNodes, List.filter_cons_of_pos (by simp [inner])]
  change select field _ (step.collect field [node]) = _
  rw [select_nodes, Step.collect_selected, List.flatMap_singleton]
  rfl

theorem endLeaves_step (rest : List Step) :
    endLeaves field (step :: rest) = endLeaves field rest := by
  funext node
  rw [endLeaves, List.filter_cons_of_neg (by simp [inner]), endLeaves]

omit inner

/-- A read gathers the leaves of all end nodes. -/
theorem leavesBelow_endNodes {steps : List Step} (chain : Chain steps) (node : BusinessObject) :
    leavesBelow field steps node =
      (endNodes field steps node).flatMap (endLeaves field steps) := by
  induction chain generalizing node with
  | body => exact (List.flatMap_singleton _ node).symm
  | leaf property => exact (List.flatMap_singleton _ node).symm
  | step step rest inner distinct chain ih =>
      rw [leavesBelow_step field (.inl inner), endNodes_step inner, endLeaves_step inner,
        List.flatMap_assoc]
      exact congrArg (step.selected field node).flatMap (funext ih)

/-- The descent reaches the first end node or none, and the leaves that a write passes by are those
of the other end nodes. -/
theorem endNodes_reached (field : String) {steps : List Step} (chain : Chain steps)
    (last : Option Step) (node : BusinessObject) :
    ∃ others, endNodes field steps node =
        (haltBelow field last steps node).reached?.toList ++ others ∧
      othersBelow field steps node = others.flatMap (endLeaves field steps) := by
  induction chain generalizing last node with
  | body => exact ⟨[], rfl, rfl⟩
  | leaf property =>
      have none := Step.selected_leaf field node property
      rw [haltBelow_missing none, othersBelow_missing none]
      exact ⟨[], rfl, rfl⟩
  | step step rest inner distinct chain ih =>
      rw [endNodes_step inner, endLeaves_step inner, haltBelow, othersBelow]
      cases step.selected field node with
      | nil =>
          have stuck : (⟨last, node, step :: rest⟩ : Halt).stuck = true := by
            simp [Halt.stuck, inner]
          exact ⟨[], by simp [Halt.reached?, stuck], rfl⟩
      | cons first more =>
          -- The write goes on below the first child, and the read below the others as well.
          obtain ⟨others, nodes, passed⟩ := ih (some step) first
          refine ⟨others ++ more.flatMap (endNodes field rest), ?_, ?_⟩
          · rw [List.flatMap_cons, nodes, List.append_assoc]
          · dsimp only
            rw [passed, List.flatMap_append, List.flatMap_assoc]
            refine congrArg (others.flatMap (endLeaves field rest) ++ more.flatMap ·) (funext ?_)
            exact leavesBelow_endNodes chain

end Location

namespace LocationTable

open Location (endNodes endLeaves SelfSelecting writtenLeaf noteSteps noteLocation notedTask
  compile_noteSteps noteLocation_selecting)

/-- After a write at a self-selecting location a read gathers the written value and then the leaves
that the end nodes had which the write has not reached. -/
theorem read_written (declared : Dictionary String (List StepDeclaration)) (name : String)
    (location : Location) (known : (compile declared).1.find? name = some location)
    (field : String) (selecting : SelfSelecting field location.steps) (registry : TypeRegistry)
    (value : Option Scalar) (filled : ∀ held ∈ value, held.isEmpty = false)
    (node after : BusinessObject)
    (done : (compile declared).1.write registry node field name value = (after, .ok ())) :
    ∃ others,
      endNodes field location.steps node =
        (location.halt field node).reached?.toList ++ others ∧
      location.leaves field node =
        (endNodes field location.steps node).flatMap (endLeaves field location.steps) ∧
      location.leaves field after =
        (writtenLeaf value location.steps).toList ++
          others.flatMap (endLeaves field location.steps) ∧
      (others = [] →
        (compile declared).1.read after field name = writtenLeaf value location.steps) := by
  obtain ⟨steps, chain⟩ := compile_compiled declared name location known
  obtain ⟨others, nodes, passed⟩ := Location.endNodes_reached field chain none node
  rw [write_known known] at done
  have leaves := Location.writeSteps_leaves value filled chain node (congrArg Prod.snd done)
  rw [done, Location.foundLeaf, if_pos (selecting.selects value), passed] at leaves
  refine ⟨others, nodes, ?_, ?_, fun alone => ?_⟩
  · rw [Location.leaves_leavesBelow field steps, Location.leavesBelow_endNodes chain]
  · rw [Location.leaves_leavesBelow field steps, leaves]
  · rw [read_known known steps, leaves, alone, List.flatMap_nil, List.append_nil,
      Location.joinLeaves_toList]

/-- The first own note gets the written text, and a read finds that of the other own note behind
it. -/
theorem read_written_notes :
    ∃ after, (compile (.ofList [("note", noteSteps)])).1.write TypeRegistry.permissive
        (notedTask [("me", "a"), ("you", "b"), ("me", "c")]) "me" "note" (some (.text "d")) =
          (after, .ok ()) ∧
      noteLocation.leaves "me" after = [.text "d", .text "c"] := by
  let node := notedTask [("me", "a"), ("you", "b"), ("me", "c")]
  have done : (compile (.ofList [("note", noteSteps)])).1.write TypeRegistry.permissive node "me"
      "note" (some (.text "d")) = (_, .ok ()) := Prod.ext rfl rfl
  obtain ⟨others, nodes, _, leaves, _⟩ := read_written _ "note" noteLocation compile_noteSteps
    "me" noteLocation_selecting .permissive (some (.text "d")) (by decide) node _ done
  have reached : endNodes "me" noteLocation.steps node =
      (noteLocation.halt "me" node).reached?.toList ++
        [((BusinessObject.empty "Note").setScalar "by" (some (.text "me"))).setScalar "text"
          (some (.text "c"))] := rfl
  rw [reached] at nodes
  refine ⟨_, done, leaves.trans ?_⟩
  rw [← List.append_cancel_left nodes]
  rfl

end LocationTable

end PropertyPanel

/-
This file proves that a prune removes vacant nodes from the end of its trail, that its climb always
finds the nodes that it looks for, and that a read at the location finds the same value afterwards.
-/

import Mathlib.Logic.Relation
import PropertyPanel.Proofs.Configuration
import PropertyPanel.Proofs.Resolution.Edit
import PropertyPanel.Proofs.Resolution.Trail

namespace PropertyPanel

namespace BusinessObject

/-- The node without the child at an index, and without the property if no other child is left. -/
def remainder (node : BusinessObject) (name : String) (index : Nat) : BusinessObject :=
  let others := (node.children name).eraseIdx index
  if others.isEmpty then node.removeProperty name else node.setProperty name (.sequence others)

theorem dropChild_remainder {node : BusinessObject} {name : String} {index : Nat}
    {child : BusinessObject} (present : (node.children name)[index]? = some child) :
    node.dropChild name index = node.remainder name index := by
  obtain ⟨inside, _⟩ := List.getElem?_eq_some_iff.mp present
  cases held : node.property? name with
  | none => simp [children, held] at inside
  | some value =>
      cases value with
      | scalar value => simp [children, held] at inside
      | single first =>
          have zero : index = 0 := by simpa [children, held] using inside
          simp [dropChild, detach, remainder, children, held, zero]
      | sequence nodes =>
          have within : index < nodes.length := by simpa [children, held] using inside
          simp [dropChild, detach, remainder, children, held, within]

/-- A node that loses one of its children is another one. -/
theorem remainder_changed {node : BusinessObject} {name : String} {index : Nat}
    {child : BusinessObject} (present : (node.children name)[index]? = some child) :
    node.remainder name index ≠ node := by
  intro same
  obtain ⟨inside, _⟩ := List.getElem?_eq_some_iff.mp present
  have shorter := congrArg List.length (node.children_dropChild name index)
  rw [dropChild_remainder present, same, List.length_eraseIdx_of_lt inside] at shorter
  omega

/-- A node of which a child is replaced by another one is another one. -/
theorem replaceChild_changed {node : BusinessObject} {name : String} {index : Nat}
    {child other : BusinessObject} (present : (node.children name)[index]? = some child)
    (different : other ≠ child) : node.replaceChild name index other ≠ node := by
  intro same
  obtain ⟨inside, _⟩ := List.getElem?_eq_some_iff.mp present
  have replaced := node.children_replaceChild name index other
  rw [same] at replaced
  rw [replaced, List.getElem?_set_self inside] at present
  exact different (Option.some.inj present)

end BusinessObject

namespace Location

variable {field : String}

section Climb

/-- A turn of a climb removes the last node of the trail. -/
inductive ClimbStep (field : String) : BusinessObject × Trail → BusinessObject × Trail → Prop
  | remove {node shorter : BusinessObject} {last : Step × Nat} {rest : Trail}
      (removed : detachLast? field rest.reverse last node = some shorter) :
      ClimbStep field (node, last :: rest) (shorter, rest)

theorem follow_append (first second : Trail) (node : BusinessObject) :
    follow field (first ++ second) node =
      (follow field first node).bind (follow field second) := by
  induction first generalizing node with
  | nil => rfl
  | cons place rest ih =>
      obtain ⟨step, index⟩ := place
      rw [List.cons_append, follow, follow, Option.bind_assoc]
      exact congrArg _ (funext ih)

/-- A vacant node that is removed is a child of the node at the end of the trail. -/
theorem detachLast?_removed {trail : Trail} {last : Step × Nat} {node shorter : BusinessObject}
    (removed : detachLast? field trail last node = some shorter) :
    ∃ parent child, follow field trail node = some parent ∧
      (parent.children (last.1.name field))[last.2]? = some child ∧
      last.1.isVacant child = true ∧
      shorter = replaceAt field trail (parent.dropChild (last.1.name field) last.2) node := by
  simp only [detachLast?, Option.bind_eq_bind, Option.bind_eq_some_iff] at removed
  obtain ⟨parent, reached, child, present, removed⟩ := removed
  split at removed
  · rename_i vacant
    rw [BusinessObject.detach_present present] at removed
    exact ⟨parent, child, reached, present, vacant, (Option.some.inj removed).symm⟩
  · cases removed

/-- The rest of the trail leads to the node above the one that is removed. -/
theorem ClimbStep.follow {before after : BusinessObject × Trail}
    (turn : ClimbStep field before after) :
    (Location.follow field after.2.reverse after.1).isSome = true := by
  obtain ⟨removed⟩ := turn
  obtain ⟨parent, child, reached, _, _, same⟩ := detachLast?_removed removed
  rw [same, follow_replaceAt reached]
  rfl

/-- The trail that is left leads to a node at every moment of a climb. -/
theorem follow_climb {steps : List Step} {node : BusinessObject} {state : BusinessObject × Trail}
    (climbed : Relation.ReflTransGen (ClimbStep field)
      (node, (trail field steps node).reverse) state) :
    (follow field state.2.reverse state.1).isSome = true := by
  cases climbed with
  | refl => rw [List.reverse_reverse, follow_trail field steps none, Option.isSome_some]
  | tail _ turn => exact turn.follow

end Climb

section Branch

/-- A branch consists of the nodes of a trail if each of them is vacant without the next one. -/
inductive Vacated (field : String) : Step → Trail → BusinessObject → Prop
  | last {step : Step} {node : BusinessObject} (vacant : step.isVacant node = true) :
      Vacated field step [] node
  | node {step next : Step} {index : Nat} {rest : Trail} {node child : BusinessObject}
      (present : (node.children (next.name field))[index]? = some child)
      (below : Vacated field next rest child)
      (vacant : step.isVacant (node.dropChild (next.name field) index) = true) :
      Vacated field step ((next, index) :: rest) node

/-- What a prune clears and leaves vacant is a branch of the nodes of its trail. -/
theorem vacated_pruneBelow {step : Step} {steps : List Step} {node : BusinessObject}
    (cleared : (pruneBelow field steps node).2 = true)
    (vacant : step.isVacant (pruneBelow field steps node).1 = true) :
    Vacated field step (trail field steps node) node := by
  induction steps generalizing step node with
  | nil => exact .last vacant
  | cons next rest ih =>
      cases next.descent field node with
      | leaf leaf =>
          rw [pruneBelow_leaf field leaf] at vacant
          rw [trail_leaf leaf]
          exact .last vacant
      | stuck inner missing =>
          rw [pruneBelow_missing field inner rest missing] at vacant
          rw [trail_missing missing]
          exact .last vacant
      | child inner before child after children found =>
          rw [pruneBelow_child field inner rest found children] at cleared vacant
          split at cleared
          · rename_i gone
            rw [if_pos gone] at vacant
            rw [Bool.and_eq_true] at gone
            rw [trail_child inner found children]
            exact .node (by simp [children]) (ih gone.1 gone.2) vacant
          · cases cleared

/-- A node of a tree on a trail, with a branch that consists of the nodes further down the trail. -/
structure Branch (field : String) (trail : Trail) (node : BusinessObject) where
  upper : Trail
  step : Step
  index : Nat
  lower : Trail
  parent : BusinessObject
  child : BusinessObject
  parts : trail = upper ++ (step, index) :: lower
  reached : follow field upper node = some parent
  present : (parent.children (step.name field))[index]? = some child
  vacated : Vacated field step lower child

namespace Branch

/-- The tree without the branch, in which nothing else is changed. -/
def without {trail : Trail} {node : BusinessObject} (branch : Branch field trail node) :
    BusinessObject :=
  replaceAt field branch.upper (branch.parent.remainder (branch.step.name field) branch.index) node

/-- A branch below a child is one below the node above the child. -/
def above {step : Step} {index : Nat} {rest : Trail} {node child : BusinessObject}
    (present : (node.children (step.name field))[index]? = some child)
    (branch : Branch field rest child) : Branch field ((step, index) :: rest) node where
  upper := (step, index) :: branch.upper
  step := branch.step
  index := branch.index
  lower := branch.lower
  parent := branch.parent
  child := branch.child
  parts := congrArg ((step, index) :: ·) branch.parts
  reached := by rw [follow, present, Option.bind_some, branch.reached]
  present := branch.present
  vacated := branch.vacated

theorem without_above {step : Step} {index : Nat} {rest : Trail} {node child : BusinessObject}
    (present : (node.children (step.name field))[index]? = some child)
    (branch : Branch field rest child) :
    (branch.above present).without = node.replaceChild (step.name field) index branch.without := by
  simp only [without, above, replaceAt, present]

end Branch

/-- A prune changes nothing or removes a branch that consists of nodes of its trail. -/
theorem pruneBelow_branch (steps : List Step) (node : BusinessObject) :
    (pruneBelow field steps node).1 = node ∨
      ∃ branch : Branch field (trail field steps node) node,
        (pruneBelow field steps node).1 = branch.without := by
  induction steps generalizing node with
  | nil => exact .inl rfl
  | cons step rest ih =>
      cases step.descent field node with
      | leaf leaf => exact .inl (by rw [pruneBelow_leaf field leaf])
      | stuck inner missing => exact .inl (by rw [pruneBelow_missing field inner rest missing])
      | child inner before child after children found =>
          have present : (node.children (step.name field))[before.length]? = some child := by
            simp [children]
          rw [trail_child inner found children, pruneBelow_child field inner rest found children]
          split
          · rename_i cleared
            rw [Bool.and_eq_true] at cleared
            have vacated := vacated_pruneBelow cleared.1 cleared.2
            exact .inr ⟨⟨[], step, before.length, _, node, child, rfl, rfl, present, vacated⟩,
              BusinessObject.dropChild_remainder present⟩
          · rcases ih child with same | ⟨branch, removed⟩
            · exact .inl (by rw [same, BusinessObject.replaceChild_same present])
            · exact .inr ⟨branch.above present, by rw [removed, branch.without_above present]⟩

end Branch

section Report

theorem pruneBelow_trailless {steps : List Step} {node : BusinessObject}
    (empty : trail field steps node = []) : pruneBelow field steps node = (node, true) := by
  cases steps with
  | nil => rfl
  | cons step rest =>
      cases step.descent field node with
      | leaf leaf => exact pruneBelow_leaf field leaf rest node
      | stuck inner missing => exact pruneBelow_missing field inner rest missing
      | child inner before child after children found =>
          rw [trail_child inner found children] at empty
          cases empty

/-- A prune that reports a removal changes the node. -/
theorem pruneBelow_reported {steps : List Step} {node : BusinessObject}
    (reported : (pruneBack field false node (trail field steps node).reverse).2 = true) :
    (pruneBelow field steps node).1 ≠ node := by
  induction steps generalizing node with
  | nil => cases reported
  | cons step rest ih =>
      cases step.descent field node with
      | leaf leaf =>
          rw [trail_leaf leaf] at reported
          cases reported
      | stuck inner missing =>
          rw [trail_missing missing] at reported
          cases reported
      | child inner before child after children found =>
          have present : (node.children (step.name field))[before.length]? = some child := by
            simp [children]
          rw [trail_child inner found children, List.reverse_cons] at reported
          rw [pruneBelow_child field inner rest found children]
          cases climbed : (trail field rest child).reverse with
          | nil =>
              -- The child is the last node of the trail, so it is removed itself.
              rw [climbed, List.nil_append, pruneBack_first, List.reverse_nil,
                detachLast?_child field present] at reported
              split at reported
              · rename_i vacant
                rw [pruneBelow_trailless (List.reverse_eq_nil_iff.mp climbed),
                  if_pos (by simpa using vacant), BusinessObject.dropChild_remainder present]
                exact BusinessObject.remainder_changed present
              · cases reported
          | cons last others =>
              rw [climbed, List.cons_append, pruneBack_first, List.reverse_append,
                List.reverse_singleton, List.singleton_append, detachLast?_step field present,
                Option.isSome_map] at reported
              have changed := @ih child (by rwa [climbed, pruneBack_first])
              split
              · rw [BusinessObject.dropChild_remainder present]
                exact BusinessObject.remainder_changed present
              · exact BusinessObject.replaceChild_changed present changed

/-- A prune is the recursive one and reports whether this changes the node. -/
theorem prune_reported (location : Location) (node : BusinessObject) :
    location.prune field node =
      ((pruneBelow field location.steps node).1,
        decide ((pruneBelow field location.steps node).1 ≠ node)) := by
  have pruned := prune_pruneBelow field location node
  refine Prod.ext pruned (Bool.eq_iff_iff.mpr ?_)
  rw [decide_eq_true_eq]
  refine ⟨pruneBelow_reported, fun changed => prune_changed ?_⟩
  rwa [pruned]

end Report

/-- Steps keep the nodes between them if none goes on at a name that the one before it has a
condition on. -/
theorem Keeping.of_apart {steps : List Step}
    (apart : steps.IsChain fun step next => step.constrains (next.name field) = false) :
    Keeping field steps :=
  apart.imp fun _ _ free => Step.permits_unconstrained free field none

end Location

namespace LocationTable

open Location (noteSteps noteLocation compile_noteSteps noteLocation_selecting)

/-- A prune is the recursive one, reports whether it has removed anything, and removes nothing but
a branch of vacant nodes at the end of its trail. Its climb finds every node that it looks for. If
no step goes on at a name that the step before it has a condition on, a read finds the same value
afterwards. -/
theorem prune_recursive (declared : Dictionary String (List StepDeclaration)) (name : String)
    (location : Location) (known : (compile declared).1.find? name = some location)
    (field : String) (node : BusinessObject) :
    let table := (compile declared).1
    let trail := Location.trail field location.steps node
    let pruned := (Location.pruneBelow field location.steps node).1
    table.prune node field name = (pruned, decide (pruned ≠ node)) ∧
      (pruned ≠ node → ∃ branch : Location.Branch field trail node, pruned = branch.without) ∧
      (∀ climbing last rest,
        Relation.ReflTransGen (Location.ClimbStep field) (node, trail.reverse)
            (climbing, last :: rest) →
          ∃ parent child, Location.follow field rest.reverse climbing = some parent ∧
            (parent.children (last.1.name field))[last.2]? = some child) ∧
      ((location.steps.IsChain fun step next => step.constrains (next.name field) = false) →
        table.read pruned field name = table.read node field name) := by
  obtain ⟨nonempty, chain⟩ := compile_compiled declared name location known
  refine ⟨?_, fun changed => ?_, fun climbing last rest climbed => ?_, fun apart => ?_⟩
  · rw [prune, known]
    exact Location.prune_reported location node
  · exact (Location.pruneBelow_branch location.steps node).resolve_left changed
  · have reached := Location.follow_climb climbed
    rw [List.reverse_cons, Location.follow_append, Option.isSome_iff_exists] at reached
    obtain ⟨child, reached⟩ := reached
    obtain ⟨parent, above, below⟩ := Option.bind_eq_some_iff.mp reached
    refine ⟨parent, child, above, ?_⟩
    simpa [Location.follow] using below
  · rw [read_known known nonempty, read_known known nonempty]
    exact congrArg Location.joinLeaves
      ((Location.pruneBelow_leaves field chain node).2 (.of_apart apart))

/-- The note of the author is removed with the detail that holds nothing else, and the task stays. -/
theorem prune_recursive_notes :
    let named := (BusinessObject.empty "Task").setScalar "name" (some (.text "t"))
    let note := (BusinessObject.empty "Note").setScalar "by" (some (.text "me"))
    let detail := (BusinessObject.empty "Detail").setProperty "notes" (.sequence [note])
    let table := (compile (.ofList [("note", noteSteps)])).1
    table.prune (named.setProperty "detail" (.single detail)) "me" "note" = (named, true) ∧
      table.read named "me" "note" =
        table.read (named.setProperty "detail" (.single detail)) "me" "note" := by
  intro named note detail table
  obtain ⟨same, _, _, unseen⟩ := prune_recursive _ "note" noteLocation compile_noteSteps "me"
    (named.setProperty "detail" (.single detail))
  have pruned : (Location.pruneBelow "me" noteLocation.steps
      (named.setProperty "detail" (.single detail))).1 = named := rfl
  have changed : named ≠ named.setProperty "detail" (.single detail) := fun equal => by
    have held := congrArg (BusinessObject.property? · "detail") equal
    cases held
  rw [pruned] at same unseen
  exact ⟨same.trans (Prod.ext rfl (decide_eq_true changed)), unseen noteLocation_selecting.apart⟩

end LocationTable

end PropertyPanel

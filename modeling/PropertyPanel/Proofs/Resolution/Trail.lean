/-
This file proves that a write acts at the node where its descent ends, and that the trail of a prune
leads to this node.
-/

import PropertyPanel.Proofs.Resolution.Descent
import PropertyPanel.Resolution.Prune

namespace PropertyPanel.Location

variable {field : String} {factory : NodeFactory} {name : String} {step : Step}
  {rest : List Step} {node : BusinessObject}

/-- A descent is stuck at a step that is not a leaf. -/
theorem Halt.of_stuck {halt : Halt} (stuck : halt.stuck = true) :
    ∃ step rest, halt.left = step :: rest ∧ step.isLeaf = false := by
  cases ends : halt.left with
  | nil => simp [Halt.stuck, ends] at stuck
  | cons step rest => exact ⟨step, rest, rfl, by simpa [Halt.stuck, ends] using stuck⟩

theorem haltBelow_leaf (leaf : step.isLeaf = true) (last : Option Step) :
    haltBelow field last (step :: rest) node = ⟨last, node, step :: rest⟩ := by
  cases step with
  | leaf property => exact haltBelow_missing (Step.selected_leaf field node property)
  | child property nodeType filter many => cases leaf
  | navigate property filter => cases leaf

theorem trail_leaf (leaf : step.isLeaf = true) : trail field (step :: rest) node = [] := by
  rw [trail]
  exact if_pos leaf

theorem trail_missing (missing : step.findIndex? field node = none) :
    trail field (step :: rest) node = [] := by
  rw [trail, missing]
  exact ite_self _

theorem trail_child (inner : step.isLeaf = false) {before after : List BusinessObject}
    {child : BusinessObject} (found : step.findIndex? field node = some before.length)
    (children : node.children (step.name field) = before ++ child :: after) :
    trail field (step :: rest) node = (step, before.length) :: trail field rest child := by
  have present : (node.children (step.property.resolve field))[before.length]? = some child := by
    simp [children]
  rw [trail]
  simp only [inner, found, present, Bool.false_eq_true, if_false]

/-- The trail leads to the node where the descent ends. -/
theorem follow_trail (field : String) (steps : List Step) (last : Option Step)
    (node : BusinessObject) :
    follow field (trail field steps node) node = some (haltBelow field last steps node).node := by
  induction steps generalizing last node with
  | nil => rfl
  | cons step rest ih =>
      cases step.descent field node with
      | leaf leaf =>
          rw [trail_leaf leaf, haltBelow_leaf leaf]
          rfl
      | stuck inner missing =>
          rw [trail_missing missing, haltBelow_missing (step.findIndex?_none field node missing)]
          rfl
      | child inner before child after children found accepted skips =>
          have present : (node.children (step.property.resolve field))[before.length]? =
              some child := by simp [children]
          rw [trail_child inner found children, haltBelow_child children accepted skips, follow,
            present]
          exact ih (some step) child

/-- A trail leads to the node that has been put at its end. -/
theorem follow_replaceAt {trail : Trail} {node old : BusinessObject}
    (reached : follow field trail node = some old) (replacement : BusinessObject) :
    follow field trail (replaceAt field trail replacement node) = some replacement := by
  induction trail generalizing node with
  | nil => rfl
  | cons place rest ih =>
      obtain ⟨step, index⟩ := place
      obtain ⟨child, present, below⟩ := Option.bind_eq_some_iff.mp reached
      obtain ⟨inside, _⟩ := List.getElem?_eq_some_iff.mp present
      simp only [replaceAt, follow, present, BusinessObject.children_replaceChild,
        List.getElem?_set_self inside, Option.bind_some]
      exact ih below

/-- A node that is replaced by itself changes nothing. -/
theorem replaceAt_same {trail : Trail} {node old : BusinessObject}
    (reached : follow field trail node = some old) : replaceAt field trail old node = node := by
  induction trail generalizing node with
  | nil => exact (Option.some.inj reached).symm
  | cons place rest ih =>
      obtain ⟨step, index⟩ := place
      obtain ⟨child, present, below⟩ := Option.bind_eq_some_iff.mp reached
      simp only [replaceAt, present, ih below]
      exact BusinessObject.replaceChild_same present

/-- A write along steps is a write at the node where the descent along them ends. -/
theorem writeSteps_halt (factory : NodeFactory) (field name : String) (value : Option Scalar)
    (steps : List Step) (last : Option Step) (node : BusinessObject) :
    let halt := haltBelow field last steps node
    writeSteps factory field name value steps node =
      (replaceAt field (trail field steps node)
          (writeSteps factory field name value halt.left halt.node).1 node,
        (writeSteps factory field name value halt.left halt.node).2) := by
  induction steps generalizing last node with
  | nil => rfl
  | cons step rest ih =>
      cases step.descent field node with
      | leaf leaf =>
          rw [trail_leaf leaf, haltBelow_leaf leaf]
          rfl
      | stuck inner missing =>
          rw [trail_missing missing, haltBelow_missing (step.findIndex?_none field node missing)]
          rfl
      | child inner before child after children found accepted skips =>
          have present : (node.children (step.property.resolve field))[before.length]? =
              some child := by simp [children]
          rw [trail_child inner found children, haltBelow_child children accepted skips,
            writeSteps_child factory field name value inner rest found children,
            ih (some step) child]
          simp only [replaceAt, present]

/-- Nothing is selected by the step at which a descent ends. -/
theorem selected_halt {steps : List Step} {last : Option Step}
    (ends : (haltBelow field last steps node).left = step :: rest) :
    step.selected field (haltBelow field last steps node).node = [] := by
  induction steps generalizing last node with
  | nil => cases ends
  | cons first later ih =>
      rw [haltBelow] at ends ⊢
      cases found : first.selected field node with
      | nil =>
          rw [found] at ends
          cases ends
          exact found
      | cons child others =>
          rw [found] at ends
          exact ih ends

/-- A write that is stuck at a step makes the nodes for all steps from there on. -/
theorem writeSteps_stuck {value : Scalar} {steps : List Step} {last : Option Step}
    {after : BusinessObject} (ends : (haltBelow field last steps node).left = step :: rest)
    (inner : step.isLeaf = false)
    (done : writeSteps factory field name (some value) steps node = (after, .ok ())) :
    ∃ created,
      createBelow factory field name value (step :: rest) (haltBelow field last steps node).node =
        .ok created ∧
      after = replaceAt field (trail field steps node) created node := by
  have missing := step.findIndex?_missing field _ (selected_halt ends)
  rw [writeSteps_halt factory field name (some value) steps last, ends,
    writeSteps_missing factory field name inner rest missing] at done
  split at done
  · rename_i created made
    exact ⟨created, made, (congrArg Prod.fst done).symm⟩
  · cases congrArg Prod.snd done

end PropertyPanel.Location

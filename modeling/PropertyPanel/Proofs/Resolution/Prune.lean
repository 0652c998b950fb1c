/-
This file proves that the climb of a prune removes the vacant nodes along a location one below the
other, and which leaves a read at the location finds afterwards.
-/

import Mathlib.Data.List.Chain
import PropertyPanel.Proofs.Resolution.Leaves
import PropertyPanel.Resolution.Prune

namespace PropertyPanel.Location

variable (field : String)

/-- A climb removes nodes like a prune and also says whether it has removed all of them. -/
def climb (node : BusinessObject) : Trail → BusinessObject × Bool
  | [] => (node, true)
  | last :: rest =>
      match detachLast? field rest.reverse last node with
      | some node => climb node rest
      | none => (node, false)

/-- The node is pruned below its first selected child, which is dropped if it is vacant then. -/
def pruneBelow : List Step → BusinessObject → BusinessObject × Bool
  | [], node => (node, true)
  | step :: rest, node =>
      if step.isLeaf then (node, true)
      else
        match step.findIndex? field node with
        | none => (node, true)
        | some index =>
            match (node.children (step.name field))[index]? with
            | none => (node, true)
            | some child =>
                let (below, cleared) := pruneBelow rest child
                if cleared && step.isVacant below then
                  (node.dropChild (step.name field) index, true)
                else (node.replaceChild (step.name field) index below, false)

theorem pruneBack_climb (pruned : Bool) (node : BusinessObject) (trail : Trail) :
    (pruneBack field pruned node trail).1 = (climb field node trail).1 := by
  induction trail generalizing pruned node with
  | nil => rfl
  | cons last rest ih =>
      rw [pruneBack, climb]
      cases detachLast? field rest.reverse last node with
      | none => rfl
      | some shorter => exact ih true shorter

/-- The last node of a trail is detached below the child at which the trail begins. -/
theorem detachLast?_step {step : Step} {index : Nat} {node child : BusinessObject}
    (present : (node.children (step.name field))[index]? = some child) (trail : Trail)
    (last : Step × Nat) :
    detachLast? field ((step, index) :: trail) last node =
      (detachLast? field trail last child).map
        (node.replaceChild (step.name field) index ·) := by
  simp only [detachLast?, follow, replaceAt, present, Option.bind_eq_bind, Option.bind_some]
  cases follow field trail child with
  | none => rfl
  | some parent =>
      simp only [Option.bind_some]
      cases (parent.children (last.1.property.resolve field))[last.2]? with
      | none => rfl
      | some found =>
          simp only [Option.bind_some]
          split
          · cases parent.detach (last.1.property.resolve field) last.2 <;> rfl
          · rfl

/-- A single vacant child is dropped, and one that is not vacant stays. -/
theorem detachLast?_child {step : Step} {index : Nat} {node child : BusinessObject}
    (present : (node.children (step.name field))[index]? = some child) :
    detachLast? field [] (step, index) node =
      if step.isVacant child then some (node.dropChild (step.name field) index) else none := by
  have detached := BusinessObject.detach_present present
  simp only [detachLast?, follow, replaceAt, present, detached, Option.bind_eq_bind,
    Option.bind_some]
  rfl

/-- A climb goes on above a child if everything below the child is removed. -/
theorem climb_step {step : Step} {index : Nat} {node child : BusinessObject}
    (present : (node.children (step.name field))[index]? = some child) (trail : Trail) :
    climb field node (trail ++ [(step, index)]) =
      if (climb field child trail).2 && step.isVacant (climb field child trail).1 then
        (node.dropChild (step.name field) index, true)
      else (node.replaceChild (step.name field) index (climb field child trail).1, false) := by
  induction trail generalizing node child with
  | nil =>
      have alone := detachLast?_child field present
      simp only [List.nil_append, climb, List.reverse_nil, alone, Bool.true_and]
      by_cases vacant : step.isVacant child = true
      · simp [vacant]
      · simp [vacant, BusinessObject.replaceChild_same present]
  | cons last rest ih =>
      rw [List.cons_append, climb, climb, List.reverse_append, List.reverse_singleton,
        List.singleton_append, detachLast?_step field present]
      cases detachLast? field rest.reverse last child with
      | none => simp [BusinessObject.replaceChild_same present]
      | some shorter =>
          have replaced : ((node.replaceChild (step.name field) index shorter).children
              (step.name field))[index]? = some shorter := by
            obtain ⟨inside, _⟩ := List.getElem?_eq_some_iff.mp present
            simp [inside]
          simp only [Option.map_some]
          rw [ih replaced]
          simp

/-- The climb along the whole trail prunes the node below. -/
theorem climb_trail (steps : List Step) (node : BusinessObject) :
    climb field node (trail field steps node).reverse = pruneBelow field steps node := by
  induction steps generalizing node with
  | nil => rfl
  | cons step rest ih =>
      rw [trail, pruneBelow]
      split
      · rfl
      · cases found : step.findIndex? field node with
        | none => rfl
        | some index =>
            dsimp only
            cases present : (node.children (step.property.resolve field))[index]? with
            | none => simp [climb]
            | some child =>
                have below := climb_step field present (trail field rest child).reverse
                rw [ih child] at below
                simp only [List.reverse_cons, below]

theorem pruneBelow_leaf {step : Step} (leaf : step.isLeaf = true) (rest : List Step)
    (node : BusinessObject) : pruneBelow field (step :: rest) node = (node, true) := by
  rw [pruneBelow]
  exact if_pos leaf

theorem pruneBelow_missing {step : Step} (inner : step.isLeaf = false) (rest : List Step)
    {node : BusinessObject} (missing : step.findIndex? field node = none) :
    pruneBelow field (step :: rest) node = (node, true) := by
  rw [pruneBelow, if_neg (by simp [inner]), missing]

/-- A child that is left vacant is dropped, and any other one stays as it is left. -/
theorem pruneBelow_child {step : Step} (inner : step.isLeaf = false) (rest : List Step)
    {node child : BusinessObject} {before after : List BusinessObject}
    (found : step.findIndex? field node = some before.length)
    (children : node.children (step.name field) = before ++ child :: after) :
    pruneBelow field (step :: rest) node =
      if (pruneBelow field rest child).2 && step.isVacant (pruneBelow field rest child).1 then
        (node.dropChild (step.name field) before.length, true)
      else
        (node.replaceChild (step.name field) before.length (pruneBelow field rest child).1,
          false) := by
  have present : (node.children (step.name field))[before.length]? = some child := by
    simp [children]
  rw [pruneBelow]
  simp only [inner, found, present, Bool.false_eq_true, if_false]

/-- A prune leaves a node alone, drops one of its children or goes on below the child. -/
theorem pruneBelow_cases (step : Step) (rest : List Step) (node : BusinessObject) :
    (pruneBelow field (step :: rest) node).1 = node ∨
      ∃ index child, (node.children (step.name field))[index]? = some child ∧
        ((pruneBelow field (step :: rest) node).1 = node.dropChild (step.name field) index ∨
          (pruneBelow field (step :: rest) node).1 =
            node.replaceChild (step.name field) index (pruneBelow field rest child).1) := by
  cases step.descent field node with
  | leaf leaf => exact .inl (by rw [pruneBelow_leaf field leaf])
  | stuck inner missing => exact .inl (by rw [pruneBelow_missing field inner rest missing])
  | child inner before child after children found =>
      refine .inr ⟨before.length, child, by simp [children], ?_⟩
      rw [pruneBelow_child field inner rest found children]
      split
      · exact .inl rfl
      · exact .inr rfl

/-- A prune is the recursive one. -/
theorem prune_pruneBelow (location : Location) (node : BusinessObject) :
    (location.prune field node).1 = (pruneBelow field location.steps node).1 := by
  rw [prune, pruneBack_climb, climb_trail]

variable {field}

theorem pruneBack_reported (node : BusinessObject) (trail : Trail) :
    (pruneBack field true node trail).2 = true := by
  induction trail generalizing node with
  | nil => rfl
  | cons last rest ih =>
      rw [pruneBack]
      split
      · exact ih _
      · rfl

/-- A climb reports whether it can remove the last node of the trail. -/
theorem pruneBack_first (node : BusinessObject) (last : Step × Nat) (rest : Trail) :
    (pruneBack field false node (last :: rest)).2 =
      (detachLast? field rest.reverse last node).isSome := by
  rw [pruneBack]
  cases detachLast? field rest.reverse last node with
  | none => rfl
  | some shorter => exact pruneBack_reported shorter rest

/-- A prune that changes the node reports it. -/
theorem prune_changed {location : Location} {node : BusinessObject}
    (changed : (location.prune field node).1 ≠ node) : (location.prune field node).2 = true := by
  rw [prune] at changed ⊢
  cases climbed : (trail field location.steps node).reverse with
  | nil =>
      rw [climbed] at changed
      exact absurd rfl changed
  | cons last rest =>
      rw [climbed, pruneBack] at changed
      rw [pruneBack_first]
      cases removed : detachLast? field rest.reverse last node with
      | none =>
          rw [removed] at changed
          exact absurd rfl changed
      | some shorter => rfl

/-- A vacant node holds no property without a condition of its step. -/
theorem isVacant_property? {step : Step} {node : BusinessObject}
    (vacant : step.isVacant node = true) {name : String}
    (free : step.permits field name none = true) : node.property? name = none := by
  unfold Step.isVacant at vacant
  split at vacant
  · rename_i filter held
    rw [Bool.and_eq_true, List.all_eq_true] at vacant
    rw [Step.permits, held, Option.all_some, List.all_eq_true] at free
    rw [BusinessObject.property?, List.lookup_eq_none_iff]
    intro entry listed
    obtain ⟨condition, inside, same⟩ :=
      List.any_eq_true.mp (vacant.2 entry.1 (List.mem_map_of_mem listed))
    have different : condition.1 ≠ name := by simpa using free condition inside
    rw [decide_eq_true_eq] at same
    exact bne_iff_ne.mpr fun equal => different (same.trans equal.symm)
  · cases vacant

/-- Nothing is found below a vacant node that its step keeps when a value is cleared. -/
theorem leavesBelow_vacant {step : Step} {rest : List Step} {node : BusinessObject}
    (vacant : step.isVacant node = true) (kept : keeps field none step rest = true) :
    leavesBelow field rest node = [] := by
  cases rest with
  | nil =>
      unfold Step.isVacant at vacant
      split at vacant
      · rw [Bool.and_eq_true, Option.isNone_iff_eq_none] at vacant
        simp [leavesBelow, BusinessObject.bodyLeaf?, vacant.1]
      · cases vacant
  | cons next later =>
      have free : step.permits field (next.name field) none = true := by simpa [keeps] using kept
      exact leavesBelow_absent field (isVacant_property? vacant free) later

/-- Every step keeps the node that leads to the next one when a value is cleared. -/
def Keeping (field : String) (steps : List Step) : Prop :=
  steps.IsChain fun step next => step.permits field (next.name field) none = true

theorem Keeping.keeps {step : Step} {rest : List Step} (keeping : Keeping field (step :: rest)) :
    Location.keeps field none step rest = true := by
  cases rest with
  | nil => rfl
  | cons next later => simpa [Location.keeps] using (List.isChain_cons_cons.mp keeping).1

theorem Keeping.of_selects {steps : List Step} (selecting : selects field none steps = true) :
    Keeping field steps := by
  induction steps with
  | nil => exact .nil
  | cons step rest ih =>
      rw [selects, Bool.and_eq_true, Bool.and_eq_true] at selecting
      cases rest with
      | nil => exact .singleton step
      | cons next later =>
          exact .cons_cons (by simpa [Location.keeps] using selecting.1.2) (ih selecting.2)

/-- A prune keeps all scalars of the node above it. -/
theorem pruneBelow_sameScalars (steps : List Step) (node : BusinessObject) :
    (pruneBelow field steps node).1.SameScalars node := by
  cases steps with
  | nil => exact .refl node
  | cons step rest =>
      rcases pruneBelow_cases field step rest node with same | ⟨_, _, _, dropped | replaced⟩
      · rw [same]
        exact .refl node
      · rw [dropped]
        exact BusinessObject.sameScalars_dropChild node _ _
      · rw [replaced]
        exact BusinessObject.sameScalars_replaceChild node _ _ _

/-- A prune can only drop leaves, and it drops none if the steps keep the nodes between them. -/
theorem pruneBelow_leaves (field : String) {steps : List Step} (chain : Chain steps)
    (node : BusinessObject) :
    (leavesBelow field steps (pruneBelow field steps node).1).Sublist
        (leavesBelow field steps node) ∧
      (Keeping field steps →
        leavesBelow field steps (pruneBelow field steps node).1 =
          leavesBelow field steps node) := by
  induction chain generalizing node with
  | body => exact ⟨.refl _, fun _ => rfl⟩
  | leaf property => exact ⟨.refl _, fun _ => rfl⟩
  | step step rest inner distinct chain ih =>
      cases step.descent field node with
      | leaf leaf => cases inner.symm.trans leaf
      | stuck inner missing =>
          rw [pruneBelow_missing field inner rest missing]
          exact ⟨.refl _, fun _ => rfl⟩
      | child inner before child after children found accepted skips =>
          obtain ⟨fewer, same⟩ := ih child
          rw [pruneBelow_child field inner rest found children,
            leavesBelow_step field (.inl inner) node, step.selected_child field node children skips,
            List.filter_cons_of_pos accepted, List.flatMap_cons]
          split
          · rename_i cleared
            rw [Bool.and_eq_true] at cleared
            rw [leavesBelow_step field (.inl inner),
              step.selected_dropFirst field node children skips]
            refine ⟨List.sublist_append_right _ _, fun keeping => ?_⟩
            -- The dropped child had no leaves any more.
            rw [← same keeping.tail, leavesBelow_vacant cleared.2 keeping.keeps, List.nil_append]
          · have kept : step.accepts field (pruneBelow field rest child).1 = true := by
              rw [Step.accepts_same (pruneBelow_sameScalars rest child), accepted]
            have selected := step.selected_child field _
              (step.children_replaceFirst field node children (pruneBelow field rest child).1) skips
            rw [leavesBelow_step field (.inl inner), selected, List.filter_cons_of_pos kept,
              List.flatMap_cons]
            refine ⟨fewer.append_right _, fun keeping => ?_⟩
            rw [same keeping.tail]

end PropertyPanel.Location

/-
This file proves which children a step selects and what it takes to keep them selected.
-/

import PropertyPanel.Proofs.BusinessObject
import PropertyPanel.Resolution.Read

namespace PropertyPanel

/-- A condition that accepts a value is not on an empty value. -/
theorem Expected.resolve_filled {field : String} {expected : Expected} {actual : Scalar}
    (accepted : expected.accepts field actual = true) :
    (expected.resolve field).isEmpty = false := by
  cases expected with
  | literal value =>
      simp only [accepts, Bool.and_eq_true, Bool.not_eq_true'] at accepted
      exact accepted.2.1
  | fieldId =>
      simp only [accepts, Bool.and_eq_true, Bool.not_eq_true'] at accepted
      exact accepted.2.1

namespace Step

variable (field : String) (step : Step) (node : BusinessObject)

/-- The name of the property that a step reads. -/
abbrev name : String := step.property.resolve field

/-- The children of one node that a step selects. -/
def selected : List BusinessObject :=
  (node.children (step.name field)).filter (step.accepts field)

/-- The children that a step selects of several nodes are those of one node after the other. -/
theorem collect_selected (nodes : List BusinessObject) :
    step.collect field nodes = nodes.flatMap (step.selected field) := by
  rw [collect, List.filter_flatMap]
  rfl

/-- A leaf step selects no children. -/
theorem selected_leaf (property : PropertyName) : (leaf property).selected field node = [] :=
  List.filter_eq_nil_iff.mpr fun _ _ => by simp [accepts]

theorem findIndex?_none (missing : step.findIndex? field node = none) :
    step.selected field node = [] := by
  rw [findIndex?, List.findIdx?_eq_none_iff] at missing
  exact List.filter_eq_nil_iff.mpr fun child inside => by simp [missing child inside]

theorem findIndex?_missing (missing : step.selected field node = []) :
    step.findIndex? field node = none := by
  rw [findIndex?, List.findIdx?_eq_none_iff]
  simpa [selected] using missing

/-- The conditions of the step on a name accept a value. -/
def permits (name : String) (value : Option Scalar) : Bool :=
  step.filter?.all fun filter => filter.conditions.all fun condition =>
    condition.1 != name || value.any (condition.2.accepts field)

/-- No condition of the step is on an empty value. -/
def solvable : Bool :=
  step.filter?.all fun filter => (filter.assignments field).all fun entry => !entry.2.isEmpty

/-- No name has two conditions. -/
def Distinct : Prop := ∀ filter ∈ step.filter?, (filter.conditions.map Prod.fst).Nodup

/-- A filter looks at the scalars that it has conditions on. -/
theorem filter_accepts (filter : Filter) (node : BusinessObject) :
    filter.accepts field node = filter.conditions.all fun condition =>
      (node.scalar? condition.1).any (condition.2.accepts field) := by
  rw [Filter.accepts]
  refine congrArg filter.conditions.all (funext fun (name, expected) => ?_)
  dsimp only
  cases node.scalar? name <;> rfl

variable {field} {step} {node}

/-- A node that is accepted satisfies the conditions of the step. -/
theorem filter_accepted (accepted : step.accepts field node = true) {filter : Filter}
    (held : step.filter? = some filter) : filter.accepts field node = true := by
  cases step with
  | child property nodeType conditions many =>
      cases held
      rw [accepts, Bool.and_eq_true] at accepted
      exact accepted.2
  | navigate property conditions =>
      cases held
      exact accepted
  | leaf property => cases held

/-- The acceptance of a node depends on its type and its scalars. -/
theorem accepts_same {after before : BusinessObject} (same : after.SameScalars before) :
    step.accepts field after = step.accepts field before := by
  cases step with
  | child property nodeType filter many =>
      simp only [accepts, filter_accepts, same.1, same.2]
  | navigate property filter => simp only [accepts, filter_accepts, same.2]
  | leaf property => rfl

/-- After a change of one scalar an accepted node has to satisfy the conditions on its name. -/
theorem accepts_changed {after before : BusinessObject} {name : String}
    (types : after.typeTag = before.typeTag)
    (others : ∀ other, other ≠ name → after.scalar? other = before.scalar? other)
    (accepted : step.accepts field before = true) :
    step.accepts field after = step.permits field name (after.scalar? name) := by
  have conditions {filter : Filter} (held : step.filter? = some filter) :
      filter.accepts field after = step.permits field name (after.scalar? name) := by
    have satisfied := filter_accepted accepted held
    rw [filter_accepts, List.all_eq_true] at satisfied
    rw [permits, held, Option.all_some, filter_accepts, Bool.eq_iff_iff, List.all_eq_true,
      List.all_eq_true]
    refine forall₂_congr fun condition listed => ?_
    by_cases same : condition.1 = name
    · simp [same]
    · simp [same, others condition.1 same, satisfied condition listed]
  cases step with
  | child property nodeType filter many =>
      rw [accepts, Bool.and_eq_true] at accepted
      rw [accepts, types, accepted.1, Bool.true_and]
      exact conditions rfl
  | navigate property filter => exact conditions rfl
  | leaf property => cases accepted

/-- A step accepts a node after a value is put at its leaf if the value satisfies the step. -/
theorem accepts_setScalar (accepted : step.accepts field node = true) (name : String)
    (value : Option Scalar) :
    step.accepts field (node.setScalar name value) = step.permits field name value := by
  have others (other : String) (different : other ≠ name) :
      (node.setScalar name value).scalar? other = node.scalar? other := by
    rw [BusinessObject.scalar?_setScalar, if_neg different]
  have changed := accepts_changed (BusinessObject.typeTag_setScalar node name value) others
    accepted
  rwa [BusinessObject.scalar?_setScalar, if_pos rfl] at changed

/-- A step accepts a node after another node is attached to it if it has no condition there. -/
theorem accepts_attach (accepted : step.accepts field node = true) (name : String)
    (child : BusinessObject) (many : Bool) :
    step.accepts field (node.attach name child many) = step.permits field name none := by
  have others (other : String) (different : other ≠ name) :
      (node.attach name child many).scalar? other = node.scalar? other := by
    rw [BusinessObject.scalar?_attach, if_neg different]
  have changed := accepts_changed (BusinessObject.typeTag_attach node name child many) others
    accepted
  rwa [BusinessObject.scalar?_attach, if_pos rfl] at changed

/-- An accepted node has no children of a name that has a condition. -/
theorem childless_of_accepts (accepted : step.accepts field node = true) {name : String}
    (tested : step.permits field name none = false) : node.children name = [] := by
  have permitted : step.accepts field node = step.permits field name (node.scalar? name) :=
    accepts_changed rfl (fun _ _ => rfl) accepted
  cases held : node.scalar? name with
  | none =>
      rw [held, accepted, tested] at permitted
      cases permitted
  | some value => exact BusinessObject.children_scalar held

/-- A step that accepts a node has no condition on an empty value. -/
theorem solvable_of_accepts (accepted : step.accepts field node = true) :
    step.solvable field = true := by
  rw [solvable, Option.all_eq_true]
  intro filter held
  have satisfied := filter_accepted accepted held
  rw [filter_accepts, List.all_eq_true] at satisfied
  rw [Filter.assignments, List.all_map, List.all_eq_true]
  intro condition listed
  obtain ⟨actual, _, fits⟩ := (Option.any_eq_true _ _).mp (satisfied condition listed)
  simpa using Expected.resolve_filled fits

variable (field) (step) (node)

/-- A step ends at a leaf, or selects no child, or selects a first child behind others. -/
inductive Descent : Prop where
  | leaf (leaf : step.isLeaf = true)
  | stuck (inner : step.isLeaf = false) (missing : step.findIndex? field node = none)
  | child (inner : step.isLeaf = false) (before : List BusinessObject) (child : BusinessObject)
      (after : List BusinessObject)
      (children : node.children (step.name field) = before ++ child :: after)
      (found : step.findIndex? field node = some before.length)
      (accepted : step.accepts field child = true)
      (skips : ∀ skipped ∈ before, step.accepts field skipped = false)

theorem descent : Descent field step node := by
  cases ends : step.isLeaf with
  | true => exact .leaf ends
  | false =>
      cases found : step.findIndex? field node with
      | none => exact .stuck ends found
      | some index =>
          have first := found
          rw [findIndex?, List.findIdx?_eq_some_iff_getElem] at first
          obtain ⟨inside, accepted, skips⟩ := first
          have parts := List.take_append_drop index (node.children (step.name field))
          rw [← List.getElem_cons_drop inside] at parts
          have size := List.length_take_of_le (Nat.le_of_lt inside)
          refine .child ends _ _ _ parts.symm (size.symm ▸ found) accepted ?_
          intro skipped member
          obtain ⟨position, before, same⟩ := List.mem_take_iff_getElem.mp member
          have earlier : position < index := by omega
          simpa [← same] using skips position earlier

/-- The first selected child is found behind those that the step does not accept. -/
theorem findIndex?_first {before after : List BusinessObject} {child : BusinessObject}
    (children : node.children (step.name field) = before ++ child :: after)
    (accepted : step.accepts field child = true)
    (skips : ∀ skipped ∈ before, step.accepts field skipped = false) :
    step.findIndex? field node = some before.length := by
  have none : before.findIdx? (step.accepts field) = none := List.findIdx?_eq_none_iff.mpr skips
  rw [findIndex?, children, List.findIdx?_append, none, List.findIdx?_cons, accepted]
  simp

/-- Nothing is selected before a child that comes after none that the step accepts. -/
theorem selected_child {before after : List BusinessObject} {child : BusinessObject}
    (children : node.children (step.name field) = before ++ child :: after)
    (skips : ∀ skipped ∈ before, step.accepts field skipped = false) :
    step.selected field node = (child :: after).filter (step.accepts field) := by
  have none : before.filter (step.accepts field) = [] :=
    List.filter_eq_nil_iff.mpr fun skipped inside => by simp [skips skipped inside]
  rw [selected, children, List.filter_append, none]
  rfl

/-- Without its first selected child a node has those behind it that are selected. -/
theorem selected_dropFirst {before after : List BusinessObject} {child : BusinessObject}
    (children : node.children (step.name field) = before ++ child :: after)
    (skips : ∀ skipped ∈ before, step.accepts field skipped = false) :
    step.selected field (node.dropChild (step.name field) before.length) =
      after.filter (step.accepts field) := by
  have none : before.filter (step.accepts field) = [] :=
    List.filter_eq_nil_iff.mpr fun skipped inside => by simp [skips skipped inside]
  have others : (before ++ child :: after).eraseIdx before.length = before ++ after := by
    simp [List.eraseIdx_append_of_length_le]
  rw [selected, BusinessObject.children_dropChild, children, others, List.filter_append, none]
  rfl

/-- The first selected child is replaced where it is. -/
theorem children_replaceFirst {before after : List BusinessObject} {child : BusinessObject}
    (children : node.children (step.name field) = before ++ child :: after)
    (replacement : BusinessObject) :
    (node.replaceChild (step.name field) before.length replacement).children (step.name field) =
      before ++ replacement :: after := by
  rw [BusinessObject.children_replaceChild, children]
  simp

/-- Where nothing is selected, only a node that is attached can be selected. -/
theorem selected_attach (child : BusinessObject) (many : Bool)
    (missing : step.selected field node = []) :
    step.selected field (node.attach (step.name field) child many) =
      [child].filter (step.accepts field) := by
  cases many with
  | false => simp [selected, BusinessObject.attach, BusinessObject.children]
  | true =>
      cases held : node.property? (step.name field) with
      | none => simp [selected, BusinessObject.attach, BusinessObject.children, held]
      | some value =>
          cases value with
          | scalar value => simp [selected, BusinessObject.attach, BusinessObject.children, held]
          | single first => simp [selected, BusinessObject.attach, BusinessObject.children, held]
          | sequence nodes =>
              rw [selected, BusinessObject.children, held] at missing
              rw [selected, BusinessObject.attach, BusinessObject.children]
              simp only [if_true, held, BusinessObject.property?_setProperty]
              rw [List.filter_append, missing, List.nil_append]

end Step

end PropertyPanel

/-
This file proves that a step selects the node that it creates and finds what is written below it.
-/

import PropertyPanel.Proofs.Outcome
import PropertyPanel.Proofs.Resolution.Read
import PropertyPanel.Resolution.Write

namespace PropertyPanel

namespace TypeRegistry

/-- The scalars of a new node are put into it one after the other. -/
def assign (scalars : List (String × Scalar)) (node : BusinessObject) : BusinessObject :=
  scalars.foldl (fun node entry => node.setProperty entry.1 (.scalar entry.2)) node

theorem create_known {registry : TypeRegistry} {typeTag : String}
    {scalars : List (String × Scalar)} {node : BusinessObject}
    (created : registry.create typeTag scalars = .ok node) :
    node = assign scalars (.empty typeTag) := by
  unfold create at created
  split at created
  · cases created
    rfl
  · cases created

@[simp] theorem typeTag_assign (scalars : List (String × Scalar)) (node : BusinessObject) :
    (assign scalars node).typeTag = node.typeTag := by
  induction scalars generalizing node with
  | nil => rfl
  | cons entry rest ih => exact ih _

@[simp] theorem body_assign (scalars : List (String × Scalar)) (node : BusinessObject) :
    (assign scalars node).body = node.body := by
  induction scalars generalizing node with
  | nil => rfl
  | cons entry rest ih => exact ih _

/-- The names of a node after scalars are put into it are its own and theirs. -/
theorem mem_names_assign {scalars : List (String × Scalar)} {node : BusinessObject} {name : String}
    (listed : name ∈ (assign scalars node).names) :
    name ∈ node.names ∨ name ∈ scalars.map Prod.fst := by
  induction scalars generalizing node with
  | nil => exact .inl listed
  | cons entry rest ih =>
      rw [List.map_cons, List.mem_cons]
      cases ih listed with
      | inr later => exact .inr (.inr later)
      | inl early =>
          change name ∈ (Entries.put entry.1 _ node.properties).map Prod.fst at early
          rw [Entries.namesPut] at early
          split at early
          · exact .inl early
          · cases List.mem_append.mp early with
            | inl old => exact .inl old
            | inr new => exact .inr (.inl (List.mem_singleton.mp new))

theorem property?_assign_other {name : String} {scalars : List (String × Scalar)}
    (absent : name ∉ scalars.map Prod.fst) (node : BusinessObject) :
    (assign scalars node).property? name = node.property? name := by
  induction scalars generalizing node with
  | nil => rfl
  | cons entry rest ih =>
      rw [List.map_cons, List.mem_cons, not_or] at absent
      change (assign rest (node.setProperty entry.1 (.scalar entry.2))).property? name = _
      rw [ih absent.2, BusinessObject.property?_setProperty, if_neg absent.1]

/-- Where a node has no children it has none after scalars are put into it. -/
theorem children_assign (scalars : List (String × Scalar)) {node : BusinessObject} {name : String}
    (none : node.children name = []) : (assign scalars node).children name = [] := by
  induction scalars generalizing node with
  | nil => exact none
  | cons entry rest ih =>
      refine ih ?_
      rw [BusinessObject.children, BusinessObject.property?_setProperty]
      by_cases same : name = entry.1
      · rw [if_pos same]
      · rw [if_neg same]
        exact none

/-- A name that is put once has the scalar that is put. -/
theorem property?_assign {scalars : List (String × Scalar)}
    (distinct : (scalars.map Prod.fst).Nodup) {entry : String × Scalar} (inside : entry ∈ scalars)
    (node : BusinessObject) :
    (assign scalars node).property? entry.1 = some (.scalar entry.2) := by
  induction scalars generalizing node with
  | nil => cases inside
  | cons first rest ih =>
      rw [List.map_cons, List.nodup_cons] at distinct
      change (assign rest (node.setProperty first.1 (.scalar first.2))).property? entry.1 = _
      cases List.mem_cons.mp inside with
      | inl same =>
          subst same
          rw [property?_assign_other distinct.1, BusinessObject.property?_setProperty, if_pos rfl]
      | inr later => exact ih distinct.2 later _

end TypeRegistry

/-- A value that is not empty satisfies the condition that it solves. -/
theorem Expected.accepts_resolve {field : String} {expected : Expected}
    (filled : (expected.resolve field).isEmpty = false) :
    expected.accepts field (expected.resolve field) = true := by
  cases expected with
  | literal value =>
      simp only [resolve] at filled
      simp [accepts, resolve, filled]
  | fieldId =>
      simp only [resolve, Scalar.isEmpty] at filled
      simp [accepts, resolve, Scalar.isEmpty, Scalar.text?, filled]

theorem Filter.fst_assignments (field : String) (filter : Filter) :
    (filter.assignments field).map Prod.fst = filter.conditions.map Prod.fst := by
  rw [assignments, List.map_map]
  rfl

namespace Step

section Creation

variable {field : String} {registry : TypeRegistry} {property : PropertyName} {nodeType : String}
  {filter : Filter} {many : Bool} {node : BusinessObject}

theorem create_typeTag
    (created : registry.create nodeType (filter.assignments field) = .ok node) :
    node.typeTag = nodeType := by
  rw [TypeRegistry.create_known created, TypeRegistry.typeTag_assign]
  rfl

/-- A new node has scalars and no children. -/
theorem create_children
    (created : registry.create nodeType (filter.assignments field) = .ok node) (name : String) :
    node.children name = [] := by
  rw [TypeRegistry.create_known created]
  exact TypeRegistry.children_assign _ rfl

theorem create_selected
    (created : registry.create nodeType (filter.assignments field) = .ok node) (step : Step) :
    step.selected field node = [] := by
  rw [selected, create_children created]
  rfl

/-- A new node has no body. -/
theorem create_body (created : registry.create nodeType (filter.assignments field) = .ok node) :
    node.body = none := by
  rw [TypeRegistry.create_known created, TypeRegistry.body_assign]
  rfl

/-- A new node has no property without a condition. -/
theorem create_property? (created : registry.create nodeType (filter.assignments field) = .ok node)
    {name : String} (free : filter.constrains name = false) : node.property? name = none := by
  rw [TypeRegistry.create_known created, TypeRegistry.property?_assign_other]
  · rfl
  · rw [Filter.fst_assignments, List.mem_map]
    rintro ⟨condition, listed, same⟩
    rw [Filter.constrains, List.any_eq_false] at free
    exact free condition listed (decide_eq_true same)

/-- A new node is vacant. -/
theorem create_vacant (created : registry.create nodeType (filter.assignments field) = .ok node) :
    (child property nodeType filter many).isVacant node = true := by
  simp only [isVacant, filter?, create_body created, Option.isNone_none, Bool.true_and,
    List.all_eq_true]
  intro name listed
  rw [TypeRegistry.create_known created] at listed
  cases TypeRegistry.mem_names_assign listed with
  | inl old => cases old
  | inr new =>
      rw [Filter.fst_assignments] at new
      obtain ⟨condition, inside, same⟩ := List.mem_map.mp new
      exact List.any_eq_true.mpr ⟨condition, inside, decide_eq_true same⟩

/-- A step selects the node that it creates. -/
theorem create_accepted (distinct : (child property nodeType filter many).Distinct)
    (solvable : (child property nodeType filter many).solvable field = true)
    (created : registry.create nodeType (filter.assignments field) = .ok node) :
    (child property nodeType filter many).accepts field node = true := by
  have once : ((filter.assignments field).map Prod.fst).Nodup := by
    rw [Filter.fst_assignments]
    exact distinct filter rfl
  have filled : ∀ entry ∈ filter.assignments field, entry.2.isEmpty = false := by
    simpa [Step.solvable, filter?] using solvable
  simp only [accepts, create_typeTag created, decide_true, Bool.true_and]
  rw [Filter.accepts, List.all_eq_true]
  intro condition listed
  have assigned : (condition.1, condition.2.resolve field) ∈ filter.assignments field :=
    List.mem_map_of_mem listed
  have scalar : node.scalar? condition.1 = some (condition.2.resolve field) := by
    rw [BusinessObject.scalar?, TypeRegistry.create_known created,
      TypeRegistry.property?_assign once assigned]
  simp only [scalar]
  exact Expected.accepts_resolve (filled _ assigned)

end Creation

end Step

namespace Location

variable {factory : NodeFactory} {field name : String} {value : Scalar}

/-- A chain that is created begins with a new node, and the rest of it is created below. -/
theorem createBelow_child {property : PropertyName} {nodeType : String} {filter : Filter}
    {many : Bool} {rest : List Step} {node created : BusinessObject}
    (done : createBelow factory field name value
      (.child property nodeType filter many :: rest) node = .ok created) :
    ∃ fresh below, factory nodeType (filter.assignments field) = .ok fresh ∧
      createBelow factory field name value rest fresh = .ok below ∧
      created = node.attach (property.resolve field) below many := by
  rw [createBelow] at done
  split at done
  · cases done
  · rename_i fresh known
    obtain ⟨below, inside, same⟩ := Outcome.map_ok done
    exact ⟨fresh, below, known, inside, same.symm⟩

end Location

end PropertyPanel

/-
This file proves what reads and writes do at a location that is an attribute of the element itself.
-/

import PropertyPanel.Proofs.Resolution.Edit

namespace PropertyPanel

namespace BusinessObject

/-- What the attribute of a node holds that has the name of the field. -/
def attribute? (node : BusinessObject) (field : String) : Option Scalar :=
  Location.joinLeaves (((node.property? field).map Property.leaves).getD [])

theorem attribute?_absent {node : BusinessObject} {name : String}
    (absent : node.property? name = none) : node.attribute? name = none := by
  rw [attribute?, absent]
  rfl

theorem attribute?_setScalar (node : BusinessObject) (name field : String)
    {value : Option Scalar} (filled : ∀ held ∈ value, held.isEmpty = false) :
    (node.setScalar name value).attribute? field =
      if field = name then value else node.attribute? field := by
  rw [attribute?, property?_setScalar]
  split
  · cases value with
    | none => rfl
    | some held => simp [Property.leaves, filled held rfl, Location.joinLeaves]
  · rfl

end BusinessObject

namespace LocationTable

variable {table : LocationTable} {field location name : String}

/-- The name of the attribute that a location designates for a field. -/
def attributeName? (table : LocationTable) (field location : String) : Option String :=
  (table.find? location).bind fun location =>
    match location.steps with
    | [.leaf property] => some (property.resolve field)
    | _ => none

theorem attributeName?_eq_some :
    table.attributeName? field location = some name ↔
      ∃ found property, table.find? location = some found ∧ found.steps = [.leaf property] ∧
        property.resolve field = name := by
  rw [attributeName?, Option.bind_eq_some_iff]
  refine exists_congr fun found => ?_
  constructor
  · rintro ⟨known, designated⟩
    split at designated
    · rename_i property single
      exact ⟨property, known, single, Option.some.inj designated⟩
    · cases designated
  · rintro ⟨property, known, single, same⟩
    exact ⟨known, by rw [single, ← same]⟩

/-- A location that is an attribute designates one for every field. -/
theorem exists_attributeName? (flat : table.isAttribute location = true) (field : String) :
    ∃ name, table.attributeName? field location = some name := by
  rw [isAttribute] at flat
  cases known : table.find? location with
  | none => simp [known] at flat
  | some found =>
      simp only [known, Option.map_some, Option.getD_some, Location.isAttribute] at flat
      split at flat
      · rename_i property single
        exact ⟨_, attributeName?_eq_some.mpr ⟨found, property, known, single, rfl⟩⟩
      · cases flat

variable (designated : table.attributeName? field location = some name)

include designated

theorem isAttribute_designated : table.isAttribute location = true := by
  obtain ⟨found, property, known, single, _⟩ := attributeName?_eq_some.mp designated
  simp [isAttribute, known, Location.isAttribute, single]

theorem read_designated (node : BusinessObject) :
    table.read node field location = node.attribute? name := by
  obtain ⟨found, property, known, single, same⟩ := attributeName?_eq_some.mp designated
  have nonempty : found.steps ≠ [] := by simp [single]
  rw [read_known known nonempty, single, Location.leavesBelow_leaf, same]
  rfl

theorem write_designated (factory : NodeFactory) (node : BusinessObject)
    (value : Option Scalar) :
    table.write factory node field location value = (node.setScalar name value, .ok ()) := by
  obtain ⟨found, property, known, single, same⟩ := attributeName?_eq_some.mp designated
  rw [write_known known, single, Location.writeSteps_leaf factory field location value rfl, ← same]
  rfl

end LocationTable

end PropertyPanel

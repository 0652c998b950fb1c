/-
This file proves what a read finds after a draft has edited an object.
-/

import PropertyPanel.Proofs.Resolution.Prune
import PropertyPanel.Resolution.Edit

namespace PropertyPanel.LocationTable

variable {table : LocationTable} {registry : TypeRegistry} {node : BusinessObject}
  {location : Location}

theorem read_known {name : String} (known : table.find? name = some location)
    (steps : location.steps ≠ []) (field : String) (node : BusinessObject) :
    table.read node field name =
      Location.joinLeaves (Location.leavesBelow field location.steps node) := by
  rw [read, known, Option.bind_some, Location.read_leaves, Location.leaves_leavesBelow _ steps]

theorem prune_known {name : String} (known : table.find? name = some location) (field : String)
    (node : BusinessObject) :
    (table.prune node field name).1 = (Location.pruneBelow field location.steps node).1 := by
  rw [prune, known]
  exact Location.prune_pruneBelow field location node

/-- A read after an edit joins the value of the draft, if the location selects the node that holds
it, with leaves that its write has passed by, and a cleared value alone can make it lose some. -/
theorem read_edit (draft : Draft) (known : table.find? draft.location = some location)
    (steps : location.steps ≠ []) (chain : Location.Chain location.steps)
    (filled : ∀ held ∈ draft.value, held.isEmpty = false)
    (done : (table.edit registry draft node).2 = .ok ()) :
    ∃ others, others.Sublist (Location.othersBelow draft.field location.steps node) ∧
      (draft.value.isSome = true ∨
          Location.selects draft.field draft.value location.steps = true →
        others = Location.othersBelow draft.field location.steps node) ∧
      table.read (table.edit registry draft node).1 draft.field draft.location =
        Location.joinLeaves
          ((Location.foundLeaf draft.field draft.value location.steps).toList ++ others) := by
  rw [read_known known steps]
  rw [edit, write_known known] at done ⊢
  split at done
  · rename_i after outcome
    have leaves := Location.writeSteps_leaves draft.value filled chain node
      (congrArg Prod.snd outcome)
    rw [outcome] at leaves
    cases cleared : draft.value with
    | some value =>
        rw [if_neg (by simp), leaves, cleared]
        exact ⟨_, .refl _, fun _ => rfl, rfl⟩
    | none =>
        rw [if_pos (by simp), prune_known known, Location.foundLeaf_none]
        obtain ⟨fewer, same⟩ := Location.pruneBelow_leaves draft.field chain after
        rw [cleared, Location.foundLeaf_none, Option.toList_none, List.nil_append] at leaves
        rw [leaves] at fewer same
        refine ⟨_, fewer, fun selecting => ?_, rfl⟩
        cases selecting with
        | inl filled => cases filled
        | inr selecting => exact same (.of_selects selecting)
  · cases done

end PropertyPanel.LocationTable

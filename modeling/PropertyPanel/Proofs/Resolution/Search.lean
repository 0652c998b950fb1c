/-
This file proves that a read of a compiled location searches the nodes depth first and never finds
an empty value.
-/

import PropertyPanel.Proofs.Configuration
import PropertyPanel.Proofs.Resolution.Descent
import PropertyPanel.Proofs.Resolution.Join
import PropertyPanel.Proofs.Resolution.Switch

namespace PropertyPanel

/-- The body of a node is a leaf only if it has text. -/
theorem BusinessObject.bodyLeaf?_filled {node : BusinessObject} {leaf : Scalar}
    (found : node.bodyLeaf? = some leaf) : leaf.isEmpty = false := by
  unfold bodyLeaf? at found
  split at found
  · split at found
    · cases found
    · rename_i filled
      cases found
      simpa [Scalar.isEmpty] using filled
  · cases found

theorem Property.leaves_filled {property : Property} {leaf : Scalar}
    (found : leaf ∈ property.leaves) : leaf.isEmpty = false := by
  cases property with
  | scalar value =>
      rw [leaves] at found
      split at found
      · cases found
      · rename_i filled
        cases List.mem_singleton.mp found
        simpa using filled
  | single child => exact child.bodyLeaf?_filled (Option.mem_toList.mp found)
  | sequence children =>
      obtain ⟨child, _, held⟩ := List.mem_filterMap.mp found
      exact child.bodyLeaf?_filled held

namespace Location

variable {field : String}

/-- No leaf is empty, however deep it is found. -/
theorem leavesBelow_filled {steps : List Step} {node : BusinessObject} {leaf : Scalar}
    (found : leaf ∈ leavesBelow field steps node) : leaf.isEmpty = false := by
  induction steps generalizing node with
  | nil => exact node.bodyLeaf?_filled (Option.mem_toList.mp found)
  | cons step rest ih =>
      by_cases inner : step.isLeaf = false ∨ rest ≠ []
      · rw [leavesBelow_step field inner, List.mem_flatMap] at found
        obtain ⟨child, _, below⟩ := found
        exact ih below
      · rw [not_or, not_not, Bool.not_eq_false] at inner
        cases step with
        | leaf property =>
            rw [inner.2, leavesBelow_leaf] at found
            cases held : node.property? (property.resolve field) with
            | none => simp [held] at found
            | some value =>
                rw [held] at found
                exact Property.leaves_filled found
        | child property nodeType filter many => cases inner.1
        | navigate property filter => cases inner.1

/-- Leaves that are not empty are joined to a value that is not empty. -/
theorem joinLeaves_filled {leaves : List Scalar} (filled : ∀ leaf ∈ leaves, leaf.isEmpty = false)
    {value : Scalar} (joined : joinLeaves leaves = some value) : value.isEmpty = false := by
  match leaves with
  | [] => cases joined
  | [leaf] =>
      cases joined
      exact filled value List.mem_cons_self
  | leaf :: next :: rest =>
      -- Several leaves are at least as long as the separators between them.
      have long := length_joinedText (List.cons_ne_nil leaf (next :: rest))
      rw [joinLeaves_many (by simp)] at joined
      cases joined
      rw [Scalar.isEmpty, String.isEmpty_eq_false_iff]
      intro empty
      rw [empty] at long
      simp only [joinedSize, String.length_empty] at long
      omega

/-- Nothing is found behind steps that select nothing. -/
theorem leaves_missing {location : Location} {passed rest : List Step}
    (parts : location.steps = passed ++ rest) (more : rest ≠ []) {node : BusinessObject}
    (missing : select field passed [node] = []) : location.leaves field node = [] := by
  have selected : select field (passed ++ rest.dropLast) [node] = [] := by
    rw [select, List.foldl_append]
    change select field rest.dropLast (select field passed [node]) = []
    rw [missing, select_nil]
  rw [leaves, parts, List.dropLast_append_of_ne_nil more, selected]
  split
  · rename_i last _
    cases last <;> rfl
  · rfl

end Location

namespace LocationTable

open Location (leavesBelow leafSeparator noteSteps noteLocation notedTask compile_noteSteps)

/-- A read at a compiled location joins the leaves that are found below the node one selected child
after the other: it finds nothing if there is no leaf, a single leaf as it is, and the lines of
several ones. Nothing is left to search once a step selects nothing, and no value that is found is
empty, so that criteria and switches test for presence exactly. -/
theorem read_depth_first (declared : Dictionary String (List StepDeclaration)) (name : String)
    (location : Location) (known : (compile declared).1.find? name = some location)
    (field : String) (node : BusinessObject) :
    let table := (compile declared).1
    let leaves := leavesBelow field location.steps node
    (table.read node field name = none ↔ leaves = []) ∧
      (∀ leaf, leaves = [leaf] → table.read node field name = some leaf) ∧
      (1 < leaves.length → table.read node field name =
        some (.text (leafSeparator.intercalate (leaves.map Scalar.display)))) ∧
      (∀ passed rest, location.steps = passed ++ rest → rest ≠ [] →
        Location.select field passed [node] = [] → table.read node field name = none) ∧
      (∀ leaf ∈ leaves, leaf.isEmpty = false) ∧
      (∀ value, table.read node field name = some value → value.isEmpty = false) ∧
      (table.holds node ⟨field, name, none⟩ = true ↔ leaves ≠ []) ∧
      ∀ (factory : NodeFactory) expected, table.isAttribute name = true →
        (table.clearStale factory [⟨field, name, expected⟩] node).2 =
          .ok (if leaves = [] then [] else [⟨field, name, none⟩]) := by
  intro table leaves
  obtain ⟨steps, _⟩ := compile_compiled declared name location known
  have joined : table.read node field name = Location.joinLeaves leaves :=
    read_known known steps field node
  have filled : ∀ leaf ∈ leaves, leaf.isEmpty = false := fun _ => Location.leavesBelow_filled
  have missing : table.read node field name = none ↔ leaves = [] := by
    rw [joined, Location.joinLeaves_eq_none]
  refine ⟨missing, fun leaf single => by rw [joined, single]; rfl, fun several => ?_,
    fun passed rest parts more none => ?_, filled, fun value found => ?_, ?_,
    fun factory expected flat => ?_⟩
  · rw [joined, Location.joinLeaves_many several]
    rfl
  · rw [missing]
    exact (Location.leaves_leavesBelow field steps node).symm.trans
      (Location.leaves_missing parts more none)
  · exact Location.joinLeaves_filled filled (joined.symm.trans found)
  · rw [Ne, ← missing, holds, ← Ne, Option.isSome_iff_ne_none]
  · have attributes : ∀ criterion ∈ [(⟨field, name, expected⟩ : Criterion)],
        table.isAttribute criterion.location = true := by simpa using flat
    rw [table.clearStale_clearings factory _ attributes]
    cases found : table.read node field name with
    | none => simp [clearings, found, missing.mp found]
    | some value =>
        have present : leaves ≠ [] := fun empty => by cases found.symm.trans (missing.mpr empty)
        simp [clearings, found, present]

/-- Two own notes are read in separate lines, and the note of another author is not among them. -/
theorem read_depth_first_notes :
    let table := (compile (.ofList [("note", noteSteps)])).1
    table.read (notedTask [("me", "a"), ("you", "b"), ("me", "c")]) "me" "note" =
      some (.text "a\nc") :=
  (read_depth_first (.ofList [("note", noteSteps)]) "note" noteLocation compile_noteSteps "me"
    (notedTask [("me", "a"), ("you", "b"), ("me", "c")])).2.2.1 (by decide)

end LocationTable

end PropertyPanel

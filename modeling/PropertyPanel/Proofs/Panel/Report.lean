/-
This file proves which drafts a diagram in memory is told of when a panel applies them.
-/

import PropertyPanel.Proofs.Panel.Save
import PropertyPanel.Proofs.Resolution.EndNodes
import PropertyPanel.Proofs.Resolution.Join

namespace PropertyPanel

namespace Location

variable {field : String} {node : BusinessObject}

/-- The leaves of the end node that the descent of a write reaches. -/
def reachedLeaves (field : String) (location : Location) (node : BusinessObject) : List Scalar :=
  (location.halt field node).reached?.toList.flatMap (endLeaves field location.steps)

/-- A read finds the leaves of the end node that a write reaches before all others. -/
theorem leavesBelow_reached {location : Location} (chain : Chain location.steps) :
    leavesBelow field location.steps node =
      location.reachedLeaves field node ++ othersBelow field location.steps node := by
  obtain ⟨others, nodes, passed⟩ := endNodes_reached field chain none node
  rw [leavesBelow_endNodes chain, nodes, List.flatMap_append, passed]
  rfl

end Location

namespace LocationTable

variable {table : LocationTable} {registry : TypeRegistry} {draft : Draft} {location : Location}
  {node after : BusinessObject}

theorem edit_unknown {factory : NodeFactory} (unknown : table.find? draft.location = none) :
    table.edit factory draft node = (node, .ok ()) := by
  have written : table.write factory node draft.field draft.location draft.value =
      (node, .ok ()) := by rw [write, unknown]
  have pruned : table.prune node draft.field draft.location = (node, false) := by
    rw [prune, unknown]
  rw [edit, written]
  simp only [pruned]
  exact ite_self _

/-- A draft with a value puts it in the place of the leaves at the end node that it reaches. -/
theorem leaves_edit_value (known : table.find? draft.location = some location)
    (chain : Location.Chain location.steps) {value : Scalar} (present : draft.value = some value)
    (done : table.edit registry draft node = (after, .ok ())) :
    Location.leavesBelow draft.field location.steps after =
      (Location.visible (Location.foundLeaf draft.field (some value) location.steps)).toList ++
        Location.othersBelow draft.field location.steps node := by
  rw [edit, write_known known, present] at done
  split at done
  · rename_i written outcome
    rw [if_neg (by simp)] at done
    cases done
    have leaves := Location.writeSteps_visible (some value) chain node (congrArg Prod.snd outcome)
    rwa [outcome] at leaves
  · cases congrArg Prod.snd done

/-- A draft that clears a value takes leaves away and brings none. -/
theorem leaves_edit_cleared (known : table.find? draft.location = some location)
    (chain : Location.Chain location.steps) (absent : draft.value = none)
    (done : table.edit registry draft node = (after, .ok ())) :
    (Location.leavesBelow draft.field location.steps after).Sublist
      (Location.leavesBelow draft.field location.steps node) := by
  rw [edit, write_known known, absent] at done
  split at done
  · rename_i written outcome
    rw [if_pos (by simp), prune_known known] at done
    obtain ⟨rfl, _⟩ := Prod.mk.inj done
    have leaves := Location.writeSteps_visible none chain node (congrArg Prod.snd outcome)
    rw [outcome, Location.foundLeaf_none] at leaves
    have pruned := (Location.pruneBelow_leaves draft.field chain written).1
    rw [leaves] at pruned
    have before : Location.leavesBelow draft.field location.steps node = _ :=
      Location.leavesBelow_reached chain
    rw [before]
    exact pruned.trans (List.sublist_append_right _ _)
  · cases congrArg Prod.snd done

/-- A draft goes unnoticed if it clears no leaf that is read, or if the leaf of its value, as far as
it is read, shows what the leaves showed that it takes the place of. -/
theorem read_edit_same (known : table.find? draft.location = some location)
    (steps : location.steps ≠ []) (chain : Location.Chain location.steps)
    (done : table.edit registry draft node = (after, .ok ())) :
    table.read node draft.field draft.location = table.read after draft.field draft.location ↔
      match draft.value with
      | none => location.leaves draft.field after = location.leaves draft.field node
      | some value =>
          Location.Unseen (location.reachedLeaves draft.field node)
            (Location.visible (Location.foundLeaf draft.field (some value) location.steps))
            (Location.othersBelow draft.field location.steps node) := by
  rw [read_known known steps, read_known known steps, Location.leaves_leavesBelow _ steps,
    Location.leaves_leavesBelow _ steps]
  cases value : draft.value with
  | none =>
      rw [eq_comm]
      exact Location.joinLeaves_sublist (leaves_edit_cleared known chain value done)
  | some value =>
      rw [leaves_edit_value known chain value done, Location.leavesBelow_reached chain]
      exact Location.joinLeaves_unseen _ _ _

end LocationTable

namespace Panel

open LocationTable (compile)

/-- A report of an edited object is logged under the next revision. -/
theorem updateProperties_edited {diagram : Diagram} {draft : Draft} {object : BusinessObject}
    (edited : BusinessObject) (present : diagram.businessObject? draft.element = some object) :
    (diagram.replaceObject draft.element edited).updateProperties draft.element [draft.update] =
      ({ diagram.replaceObject draft.element edited with
          revision := diagram.revision + 1
          mutations := diagram.mutations ++
            [⟨diagram.revision + 1, draft.element, [draft.update]⟩] }, .ok ()) := by
  have held : (diagram.replaceObject draft.element edited).elements.contains draft.element = true :=
    diagram_contains (businessObject?_edited edited present)
  rw [Diagram.updateProperties, if_pos held, Diagram.revision_replaceObject,
    Diagram.mutations_replaceObject]

/-- A draft that is applied leaves the diagram with the edited object, and with one more mutation if
a read finds another value in it. -/
theorem applyDraft_logged {locations : LocationTable} {draft : Draft} {diagram after : Diagram}
    (applied : applyDraft locations draft diagram = (after, .ok ())) :
    ∃ object edited,
      diagram.businessObject? draft.element = some object ∧
      after.businessObject? draft.element = some edited ∧
      locations.edit diagram.registry draft object = (edited, .ok ()) ∧
      (locations.read object draft.field draft.location =
            locations.read edited draft.field draft.location ∧
          after = diagram.replaceObject draft.element edited ∨
        locations.read object draft.field draft.location ≠
            locations.read edited draft.field draft.location ∧
          after = { diagram.replaceObject draft.element edited with
            revision := diagram.revision + 1
            mutations := diagram.mutations ++
              [⟨diagram.revision + 1, draft.element, [draft.update]⟩] }) := by
  have application := applyDraft_cases locations draft diagram
  generalize applyDraft locations draft diagram = result at applied application
  cases application with
  | unknown missing => cases applied
  | stuck object error present outcome => cases applied
  | unnoticed object edited present outcome same =>
      cases applied
      exact ⟨object, edited, present, businessObject?_edited edited present, outcome,
        .inl ⟨same, rfl⟩⟩
  | reported object edited present outcome different =>
      obtain ⟨rfl, _⟩ :=
        Prod.mk.inj (applied.symm.trans (updateProperties_edited edited present))
      exact ⟨object, edited, present, businessObject?_edited edited present, outcome,
        .inr ⟨different, rfl⟩⟩

/-- A diagram is told of a draft by one mutation exactly if a read at its location finds another
value afterwards, and then the object has changed. The read finds the same exactly if a cleared
value takes no leaf away that is read, or if the leaf of a present value shows nothing that the
leaves did not show of which it takes the place. -/
theorem applyDraft_reported (declared : Dictionary String (List StepDeclaration)) (draft : Draft)
    (diagram after : Diagram)
    (applied : applyDraft (compile declared).1 draft diagram = (after, .ok ())) :
    let table := (compile declared).1
    ∃ object edited,
      diagram.businessObject? draft.element = some object ∧
      after.businessObject? draft.element = some edited ∧
      (after = diagram.replaceObject draft.element edited ∧
            after.mutations = diagram.mutations ∧
          table.read object draft.field draft.location =
            table.read edited draft.field draft.location ∨
        after = { diagram.replaceObject draft.element edited with
              revision := diagram.revision + 1
              mutations := diagram.mutations ++
                [⟨diagram.revision + 1, draft.element, [draft.update]⟩] } ∧
            edited ≠ object ∧
          table.read object draft.field draft.location ≠
            table.read edited draft.field draft.location) ∧
      (table.find? draft.location = none → edited = object) ∧
      ∀ location, table.find? draft.location = some location →
        ∃ others,
          location.leaves draft.field object =
            location.reachedLeaves draft.field object ++ others ∧
          (after.mutations = diagram.mutations ↔
            match draft.value with
            | none => location.leaves draft.field edited = location.leaves draft.field object
            | some value =>
                Location.Unseen (location.reachedLeaves draft.field object)
                  (Location.visible
                    (Location.foundLeaf draft.field (some value) location.steps)) others) := by
  intro table
  obtain ⟨object, edited, present, held, outcome, cases⟩ := applyDraft_logged applied
  have unlogged : after.mutations = diagram.mutations ↔
      table.read object draft.field draft.location =
        table.read edited draft.field draft.location := by
    rcases cases with ⟨same, rfl⟩ | ⟨different, rfl⟩
    · exact iff_of_true (diagram.mutations_replaceObject draft.element edited) same
    · exact iff_of_false (by simp) different
  refine ⟨object, edited, present, held, ?_, fun unknown => ?_, fun location known => ?_⟩
  · rcases cases with ⟨same, left⟩ | ⟨different, left⟩
    · exact .inl ⟨left, unlogged.mpr same, same⟩
    · refine .inr ⟨left, fun equal => different ?_, different⟩
      rw [equal]
  · rw [LocationTable.edit_unknown unknown] at outcome
    exact (congrArg Prod.fst outcome).symm
  · obtain ⟨steps, chain⟩ := LocationTable.compile_compiled declared draft.location location known
    refine ⟨Location.othersBelow draft.field location.steps object, ?_,
      unlogged.trans (LocationTable.read_edit_same known steps chain outcome)⟩
    rw [Location.leaves_leavesBelow _ steps, Location.leavesBelow_reached chain]

section Attribute

/-- Each field is an attribute of the element. -/
def attributeSteps : Dictionary String (List StepDeclaration) :=
  .ofList [("attribute", [⟨"$id", none, false, .empty⟩])]

/-- A diagram with one task, which has a name. -/
def namedTask (name : Property) : Diagram :=
  (Diagram.new .permissive).insert
    ⟨"task", "Task", (BusinessObject.empty "Task").setProperty "name" name⟩

/-- The diagram is told of a new name. -/
theorem applyDraft_reported_name :
    ∃ after, applyDraft (compile attributeSteps).1 nameDraft (namedTask (.scalar (.text "m"))) =
        (after, .ok ()) ∧
      after.mutations = [⟨1, "task", [nameDraft.update]⟩] := by
  have applied : applyDraft (compile attributeSteps).1 nameDraft
      (namedTask (.scalar (.text "m"))) = (_, .ok ()) := Prod.ext rfl rfl
  obtain ⟨object, edited, present, held, reported | reported, _⟩ :=
    applyDraft_reported attributeSteps nameDraft _ _ applied
  · cases present
    cases held
    exact absurd reported.2.2 (by decide)
  · refine ⟨_, applied, ?_⟩
    rw [reported.1]
    rfl

/-- A name that takes the place of a node with the same text changes the object unnoticed. -/
theorem applyDraft_unreported :
    let name : BusinessObject := (BusinessObject.empty "Name").setBody (some "n")
    applyDraft (compile attributeSteps).1 nameDraft (namedTask (.single name)) =
        (namedTask (.scalar (.text "n")), .ok ()) ∧
      (namedTask (.scalar (.text "n"))).businessObject? "task" ≠
        (namedTask (.single name)).businessObject? "task" ∧
      (namedTask (.scalar (.text "n"))).mutations = (namedTask (.single name)).mutations := by
  refine ⟨Prod.ext rfl rfl, fun same => ?_, rfl⟩
  have names := congrArg (Option.map fun object : BusinessObject => object.children "name") same
  cases names

end Attribute

end Panel

end PropertyPanel

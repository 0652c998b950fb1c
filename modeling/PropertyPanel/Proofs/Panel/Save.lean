/-
This file proves that the drafts that fail in a save of a diagram in memory leave no trace.
-/

import PropertyPanel.Proofs.DraftBuffer
import PropertyPanel.Proofs.Host
import PropertyPanel.Proofs.Panel.Application

namespace PropertyPanel.Panel

/-- A diagram knows the elements whose objects it has. -/
theorem diagram_contains {diagram : Diagram} {id : ElementId} {object : BusinessObject}
    (present : DiagramHost.businessObject? diagram id = some object) :
    diagram.elements.contains id = true := by
  change (diagram.element? id).map Element.businessObject = some object at present
  obtain ⟨element, known, _⟩ := Option.map_eq_some_iff.mp present
  exact Option.isSome_iff_exists.mpr ⟨element, known⟩

/-- A draft that fails gives the diagram back as it was. -/
theorem applyDraft_restores (locations : LocationTable) :
    DraftBuffer.Restores (applyDraft locations : Draft → Diagram → _) := by
  intro draft diagram error failed
  have application := applyDraft_cases locations draft diagram
  generalize applyDraft locations draft diagram = result at failed application
  cases application with
  | unknown missing => rfl
  | stuck object error present outcome =>
      exact LawfulHost.replaceObject_same diagram draft.element object present
  | unnoticed object after present outcome same => cases failed
  | reported object after present outcome different =>
      -- The element is known, so its diagram does not refuse the report.
      have accepted := Diagram.updateProperties_known _ _
        (diagram_contains (businessObject?_edited after present)) [draft.update]
      cases accepted.symm.trans failed

/-- A save leaves the diagram that the drafts that succeed in it make without the others, and it
keeps the drafts that fail in their order. -/
theorem save_failures_traceless (panel : Panel) (diagram : Diagram) (ready : panel.ready = true) :
    let apply : Draft → Diagram → _ := applyDraft panel.configuration.locations
    let succeeded := DraftBuffer.succeeded apply panel.pending.drafts diagram
    (panel.save diagram).2.1 = DraftBuffer.replay apply succeeded diagram ∧
      DraftBuffer.failed apply succeeded diagram = [] ∧
        (panel.save diagram).1.pending.drafts =
          DraftBuffer.failed apply panel.pending.drafts diagram := by
  intro apply succeeded
  have restores := applyDraft_restores panel.configuration.locations
  refine ⟨?_, ?_, drafts_save diagram ready⟩
  · rw [DraftBuffer.replay_succeeded restores]
    exact host_save diagram ready
  · rw [DraftBuffer.failed, DraftBuffer.calls_succeeded restores]
    simp

section Strict

/-- An attribute of the element and a value in an extension node below it. -/
def strictLocations : LocationTable :=
  .ofList [("attribute", ⟨"attribute", [.leaf .fieldId]⟩),
    ("extension", ⟨"extension",
      [.child (.literal "extension") "Extension" .none false, .leaf .fieldId]⟩)]

/-- The diagram knows no extension nodes. -/
def strictDiagram : Diagram := (Diagram.new (.ofList ["Task"])).insert (.new "task" "Task")

def extensionDraft : Draft := ⟨"task", "url", .atLocation "extension", some (.text "u")⟩

def nameDraft : Draft := ⟨"task", "name", .atLocation "attribute", some (.text "n")⟩

def strictPanel : Panel :=
  { new ⟨strictLocations, .empty, .empty, []⟩ with
    ready := true
    pending := (DraftBuffer.empty.stage extensionDraft).stage nameDraft }

/-- A draft that asks for an unknown node stays, and the one after it goes in as if alone. -/
theorem save_failures_traceless_strict :
    strictPanel.ready = true ∧
      (strictPanel.save strictDiagram).2.1 =
        DraftBuffer.replay (applyDraft strictLocations) [nameDraft] strictDiagram ∧
      (strictPanel.save strictDiagram).1.pending.drafts = [extensionDraft] := by
  have succeeded : DraftBuffer.succeeded (applyDraft strictLocations : Draft → Diagram → _)
      strictPanel.pending.drafts strictDiagram = [nameDraft] := by decide
  have failed : DraftBuffer.failed (applyDraft strictLocations : Draft → Diagram → _)
      strictPanel.pending.drafts strictDiagram = [extensionDraft] := by decide
  obtain ⟨left, _, kept⟩ := save_failures_traceless strictPanel strictDiagram rfl
  refine ⟨rfl, ?_, kept.trans failed⟩
  rw [left]
  exact congrArg (DraftBuffer.replay (applyDraft strictLocations) · strictDiagram) succeeded

end Strict

end PropertyPanel.Panel

/-
This file runs a panel on a diagram to which elements are added and into which documents are
imported, and proves that no draft of such a run misses its element.
-/

import PropertyPanel.Proofs.Panel.Presence

namespace PropertyPanel

namespace Diagram

/-- A diagram has the elements of the document that it is opened from. -/
theorem elementType?_ofDocument (document : DiagramDocument) (id : ElementId) :
    ((ofDocument document).elementType? id).isSome ↔ id ∈ document.elements.map Element.id := by
  rw [elementType?, Option.isSome_map, element?, ofDocument, Dictionary.isSome_find?_ofList,
    List.map_map]
  rfl

theorem elementType?_insert {diagram : Diagram} {element : Element} {id : ElementId}
    (known : (diagram.elementType? id).isSome) :
    ((diagram.insert element).elementType? id).isSome := by
  rw [elementType?, Option.isSome_map, element?] at known ⊢
  rw [insert, Dictionary.find?_insert]
  split
  · rfl
  · exact known

end Diagram

namespace Panel

/-- A draft whose element is in the diagram may fail for other reasons only. -/
theorem applyDraft_known {locations : LocationTable} {draft : Draft} {diagram : Diagram}
    (known : (DiagramHost.elementType? diagram draft.element).isSome) (id : ElementId) :
    (applyDraft locations draft diagram).2 ≠ .error (.unknownElement id) := by
  intro failed
  have application := applyDraft_cases locations draft diagram
  generalize applyDraft locations draft diagram = result at failed application
  cases application with
  | unknown missing =>
      rw [LawfulHost.elementType?_isSome, missing] at known
      cases known
  | stuck object error present outcome =>
      cases failed
      exact LocationTable.edit_error locations outcome id rfl
  | unnoticed object after present outcome same => cases failed
  | reported object after present outcome different =>
      have accepted := Diagram.updateProperties_known _ _
        (diagram_contains (businessObject?_edited after present)) [draft.update]
      cases accepted.symm.trans failed

/-- No draft of a grounded panel misses its element in a save. -/
theorem calls_grounded {panel : Panel} {diagram : Diagram} (grounded : Grounded (panel, diagram))
    (locations : LocationTable) :
    ∀ call ∈ DraftBuffer.calls (applyDraft locations) panel.pending.drafts diagram,
      ∀ id, call.2 ≠ .error (.unknownElement id) := by
  have flush (drafts : List Draft) (diagram : Diagram)
      (known : ∀ draft ∈ drafts, (DiagramHost.elementType? diagram draft.element).isSome) :
      ∀ call ∈ DraftBuffer.calls (applyDraft locations) drafts diagram,
        ∀ id, call.2 ≠ .error (.unknownElement id) := by
    induction drafts generalizing diagram with
    | nil => intro call listed; cases listed
    | cons draft rest ih =>
        intro call listed
        rw [DraftBuffer.calls, List.mem_cons] at listed
        cases listed with
        | inl first =>
            rw [first]
            exact applyDraft_known (known draft List.mem_cons_self)
        | inr later =>
            refine ih _ (fun other inside => ?_) call later
            rw [elementType?_applyDraft]
            exact known other (List.mem_cons_of_mem _ inside)
  exact flush _ _ grounded.2

end Panel

/-- The elements of a diagram change where one is added to it and where a document is imported
into it, and the operations of its panel come between. -/
inductive DiagramStep where
  | operate (operation : Operation Diagram) (keeps : operation.Keeps)
  | insert (element : Element)
  | importDocument (document : DiagramDocument)

namespace DiagramStep

/-- The panel handles the event that an import ends with. -/
def perform : DiagramStep → Panel × Diagram → Panel × Diagram
  | operate operation _, state => operation.perform state
  | insert element, (panel, diagram) => (panel, diagram.insert element)
  | importDocument document, (panel, _) => panel.handle (Diagram.ofDocument document) .importDone

def run (steps : List DiagramStep) (state : Panel × Diagram) : Panel × Diagram :=
  steps.foldl (fun state step => step.perform state) state

theorem grounded_perform (step : DiagramStep) {state : Panel × Diagram}
    (grounded : Panel.Grounded state) : Panel.Grounded (step.perform state) := by
  cases step with
  | operate operation keeps => exact operation.grounded_perform keeps grounded
  | insert element =>
      exact ⟨fun id selected => Diagram.elementType?_insert (grounded.1 id selected),
        fun draft waiting => Diagram.elementType?_insert (grounded.2 draft waiting)⟩
  | importDocument document => exact state.1.grounded_onImport (Diagram.ofDocument document)

theorem grounded_run (steps : List DiagramStep) {state : Panel × Diagram}
    (grounded : Panel.Grounded state) : Panel.Grounded (run steps state) := by
  induction steps generalizing state with
  | nil => exact grounded
  | cons step rest ih => exact ih (step.grounded_perform grounded)

/-- An import keeps the drafts whose element is in the document, in their order. -/
theorem pending_importDocument (document : DiagramDocument) (state : Panel × Diagram) :
    ((importDocument document).perform state).1.pending.drafts =
      state.1.pending.drafts.filter fun draft =>
        draft.element ∈ document.elements.map Element.id := by
  change (state.1.onImport (Diagram.ofDocument document)).pending.drafts = _
  rw [Panel.pending_onImport]
  refine List.filter_congr fun draft _ => ?_
  rw [Bool.eq_iff_iff, decide_eq_true_iff]
  exact Diagram.elementType?_ofDocument document draft.element

/-- In every run of a new panel on a diagram the selected element and the elements of all drafts
are in the diagram, an import drops exactly the drafts whose element is not in its document, and no
draft misses its element in a save. -/
theorem run_elements_present (configuration : Configuration) (start : Diagram)
    (steps : List DiagramStep) :
    let (panel, diagram) := run steps (.new configuration, start)
    (∀ id ∈ panel.current, (diagram.element? id).isSome) ∧
      (∀ draft ∈ panel.pending.drafts, (diagram.element? draft.element).isSome) ∧
      (∀ document, ((importDocument document).perform (panel, diagram)).1.pending.drafts =
        panel.pending.drafts.filter fun draft =>
          draft.element ∈ document.elements.map Element.id) ∧
      ∀ call ∈ DraftBuffer.calls (Panel.applyDraft panel.configuration.locations)
          panel.pending.drafts diagram,
        ∀ id, call.2 ≠ .error (.unknownElement id) := by
  have fresh : Panel.Grounded (Panel.new configuration, start) := by
    refine ⟨fun id selected => ?_, fun draft waiting => ?_⟩
    · cases selected
    · cases waiting
  have grounded := grounded_run steps fresh
  have known (id : ElementId) (typed : (DiagramHost.elementType?
      (run steps (.new configuration, start)).2 id).isSome) :
      ((run steps (.new configuration, start)).2.element? id).isSome := by
    rwa [← Option.isSome_map (f := Element.elementType)]
  exact ⟨fun id selected => known id (grounded.1 id selected),
    fun draft waiting => known draft.element (grounded.2 draft waiting),
    fun document => pending_importDocument document _,
    Panel.calls_grounded grounded _⟩

end DiagramStep

end PropertyPanel

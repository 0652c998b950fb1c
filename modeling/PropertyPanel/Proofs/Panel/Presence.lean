/-
This file proves that a panel selects and edits only elements that its diagram has.
-/

import PropertyPanel.Proofs.Panel.Save
import PropertyPanel.Proofs.Panel.Staging

namespace PropertyPanel

namespace Panel

variable {Host : Type} [DiagramHost Host]

/-- The host has the selected element and the elements of all drafts. -/
def Grounded (state : Panel × Host) : Prop :=
  (∀ id ∈ state.1.current, (DiagramHost.elementType? state.2 id).isSome) ∧
    ∀ draft ∈ state.1.pending.drafts, (DiagramHost.elementType? state.2 draft.element).isSome

variable (panel : Panel) (host : Host)

/-- A rendering can only give up the selection. -/
theorem current_render {id : ElementId} (selected : id ∈ (panel.render host).1.current) :
    id ∈ panel.current := by
  unfold render at selected
  split at selected
  · exact selected
  · split at selected
    · exact selected
    · split at selected
      · cases selected
      · exact selected

/-- What is selected afterwards has been asked for, and the host has it. -/
theorem current_select {id other : ElementId}
    (selected : other ∈ (panel.select host id).1.current) :
    other = id ∧ (DiagramHost.elementType? (panel.select host id).2.1 other).isSome := by
  simp only [select] at selected ⊢
  split at selected
  · cases selected
  · rename_i known
    cases current_render _ _ selected
    rw [if_neg known]
    exact ⟨rfl, Option.isSome_iff_ne_none.mpr (by simpa using known)⟩

theorem current_switchSubtype {name : String} {id : ElementId}
    (selected : id ∈ (panel.switchSubtype host name).1.current) : id ∈ panel.current := by
  unfold switchSubtype at selected
  split at selected
  · exact selected
  · split at selected
    · dsimp only at selected
      split at selected
      · simpa using selected
      · simpa using current_render _ _ selected
    · exact selected

/-- An import keeps the selection only if the host has the selected element. -/
theorem current_onImport {id : ElementId} (selected : id ∈ (panel.onImport host).current) :
    (DiagramHost.elementType? host id).isSome := by
  simp only [onImport, discardVanished] at selected
  split at selected
  · rename_i missing
    rw [missing] at selected
    cases selected
  · rename_i present
    split at selected
    · rename_i known
      have kept := current_render _ _ selected
      change id ∈ panel.current at kept
      rw [present] at kept
      cases kept
      exact known
    · cases selected

theorem current_input (field : String) (typed : FieldInput) :
    (panel.input host field typed).1.current = panel.current := by
  unfold input
  split
  · dsimp only
    split <;> rfl
  · rfl

/-- After an import a panel is grounded whatever it was before. -/
theorem grounded_onImport : Grounded (panel.onImport host, host) := by
  refine ⟨fun id selected => panel.current_onImport host selected, fun draft waiting => ?_⟩
  rw [pending_onImport] at waiting
  exact (List.mem_filter.mp waiting).2

section Lawful

variable [LawfulHost Host] (id : ElementId)

theorem elementType?_save :
    DiagramHost.elementType? (panel.save host).2.1 id = DiagramHost.elementType? host id :=
  save_kept (fun left => DiagramHost.elementType? left id = DiagramHost.elementType? host id) rfl
    fun _ _ _ kept => (elementType?_applyDraft id).trans kept

theorem elementType?_rewriteSubtype (edited : ElementId) (name : String) :
    DiagramHost.elementType? (panel.rewriteSubtype host edited name).1 id =
      DiagramHost.elementType? host id :=
  rewriteSubtype_kept
    (fun left => DiagramHost.elementType? left id = DiagramHost.elementType? host id) rfl
    (fun _ _ _ _ _ => LawfulHost.elementType?_replaceObject _ _ _ _)
    (fun _ _ kept => (LawfulHost.elementType?_updateProperties _ _ _ _).trans kept)

end Lawful

end Panel

namespace Operation

/-- A change from outside may edit elements but keeps which ones there are and their types. -/
def Keeps (operation : Operation Diagram) : Prop :=
  ∀ made, operation = change made →
    ∀ diagram id, (made diagram).elementType? id = diagram.elementType? id

variable {operation : Operation Diagram}

/-- No operation of a panel gives an element to the diagram or takes one from it. -/
theorem elementType?_perform (keeps : operation.Keeps) (state : Panel × Diagram)
    (id : ElementId) :
    DiagramHost.elementType? (operation.perform state).2 id =
      DiagramHost.elementType? state.2 id := by
  obtain ⟨panel, diagram⟩ := state
  have saved := panel.elementType?_save diagram id
  exact operation.host_perform
    (fun left => DiagramHost.elementType? left id = DiagramHost.elementType? diagram id)
    panel diagram rfl saved
    (fun edited name _ _ =>
      (Panel.elementType?_rewriteSubtype _ _ id edited name).trans saved)
    (fun made same => keeps made same diagram id)

/-- What is selected after an operation was selected before, or the diagram has it. -/
theorem current_perform {state : Panel × Diagram} {id : ElementId}
    (selected : id ∈ (operation.perform state).1.current) :
    id ∈ state.1.current ∨ (DiagramHost.elementType? (operation.perform state).2 id).isSome := by
  obtain ⟨panel, diagram⟩ := state
  cases operation with
  | select other => exact .inr (panel.current_select diagram selected).2
  | clearSelection => cases selected
  | input field value => exact .inl (panel.current_input diagram field value ▸ selected)
  | save => exact .inl (panel.current_save diagram ▸ selected)
  | switchSubtype name => exact .inl (panel.current_switchSubtype diagram selected)
  | render => exact .inl (panel.current_render diagram selected)
  | event given =>
      cases given with
      | importDone => exact .inr (panel.current_onImport diagram selected)
      | selectionChanged selection =>
          simp only [perform, Panel.handle] at selected ⊢
          split at selected
          · rename_i ready
            rw [if_pos ready]
            split at selected
            · exact .inr (panel.current_select diagram selected).2
            · cases selected
          · exact .inl selected
  | change made => exact .inl selected

/-- An operation keeps a panel grounded. -/
theorem grounded_perform (keeps : operation.Keeps) {state : Panel × Diagram}
    (grounded : Panel.Grounded state) : Panel.Grounded (operation.perform state) := by
  refine ⟨fun id selected => ?_, fun draft waiting => ?_⟩
  · cases current_perform selected with
    | inl before =>
        rw [elementType?_perform keeps]
        exact grounded.1 id before
    | inr known => exact known
  · rw [elementType?_perform keeps]
    cases pending_perform waiting with
    | inl before => exact grounded.2 draft before
    | inr typing =>
        obtain ⟨_, _, stages⟩ := typing
        exact grounded.1 draft.element stages.selected

end Operation

end PropertyPanel

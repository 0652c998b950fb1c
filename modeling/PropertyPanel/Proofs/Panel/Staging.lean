/-
This file proves which input has staged a draft that is pending.
-/

import Mathlib.Data.List.Induction
import PropertyPanel.Proofs.DraftBuffer
import PropertyPanel.Proofs.Panel.Run

namespace PropertyPanel

variable {Host : Type} [DiagramHost Host]

namespace Panel

/-- The input of a value in a state stages the draft. -/
structure Stages (state : Panel × Host) (typed : FieldInput) (draft : Draft) : Prop where
  selected : state.1.current = some draft.element
  described : state.1.descriptor? state.2 draft.field = some draft.descriptor
  editable : draft.descriptor.readonly = false
  value : draft.value = typed.value

/-- A draft that waits after an input has waited before or is the one of the input. -/
theorem pending_input {panel : Panel} {host : Host} {field : String} {typed : FieldInput}
    {draft : Draft} (waiting : draft ∈ (panel.input host field typed).1.pending.drafts) :
    draft ∈ panel.pending.drafts ∨ draft.field = field ∧ Stages (panel, host) typed draft := by
  unfold input at waiting
  split at waiting
  · rename_i element descriptor selected shown
    dsimp only at waiting
    split at waiting
    · exact .inl waiting
    · rename_i editable
      cases DraftBuffer.mem_stage.mp waiting with
      | inl same =>
          subst same
          exact .inr ⟨rfl, selected, shown, by simpa using editable, rfl⟩
      | inr kept => exact .inl kept.1
  · exact .inl waiting

end Panel

namespace Operation

/-- A draft that waits after an operation has waited before or is typed in the operation. -/
theorem pending_perform {operation : Operation Host} {state : Panel × Host} {draft : Draft}
    (waiting : draft ∈ (operation.perform state).1.pending.drafts) :
    draft ∈ state.1.pending.drafts ∨
      ∃ typed, operation = .input draft.field typed ∧ Panel.Stages state typed draft := by
  obtain ⟨panel, host⟩ := state
  have saved : draft ∈ (panel.save host).1.pending.drafts → draft ∈ panel.pending.drafts :=
    fun kept => (panel.save_sublist host).subset kept
  cases operation with
  | select other => exact .inl (saved ((panel.select_saved host other).1 ▸ waiting))
  | clearSelection => exact .inl (saved waiting)
  | input field typed =>
      refine (Panel.pending_input waiting).imp_right ?_
      rintro ⟨same, staged⟩
      exact ⟨typed, by rw [same], staged⟩
  | save => exact .inl (saved waiting)
  | switchSubtype name =>
      refine .inl ?_
      change draft ∈ (panel.switchSubtype host name).1.pending.drafts at waiting
      cases panel.switchSubtype_saved host name with
      | inl still => exact still.1 ▸ waiting
      | inr moved =>
          obtain ⟨_, pending, _⟩ := moved
          exact saved (pending ▸ waiting)
  | render => exact .inl (panel.pending_render host ▸ waiting)
  | event given =>
      refine .inl ?_
      cases given with
      | importDone =>
          change draft ∈ (panel.onImport host).pending.drafts at waiting
          rw [Panel.pending_onImport] at waiting
          exact (List.mem_filter.mp waiting).1
      | selectionChanged selection =>
          change draft ∈ (panel.handle host (.selectionChanged selection)).1.pending.drafts
            at waiting
          cases panel.handle_selectionChanged host selection with
          | inl still => exact still ▸ waiting
          | inr moved => exact saved (moved.1 ▸ waiting)
  | change made => exact .inl waiting

/-- The draft has been typed at some moment of the run. -/
def Staged (operations : List (Operation Host)) (start : Panel × Host) (draft : Draft) : Prop :=
  ∃ earlier later typed, operations = earlier ++ .input draft.field typed :: later ∧
    Panel.Stages (run earlier start) typed draft

theorem Staged.append {operations : List (Operation Host)} {start : Panel × Host} {draft : Draft}
    (staged : Staged operations start draft) (more : List (Operation Host)) :
    Staged (operations ++ more) start draft := by
  obtain ⟨earlier, later, typed, same, stages⟩ := staged
  exact ⟨earlier, later ++ more, typed, by simp [same], stages⟩

/-- A draft that waits after a run has waited at its start or has been typed in the run. -/
theorem pending_run (operations : List (Operation Host)) (start : Panel × Host) {draft : Draft}
    (waiting : draft ∈ (run operations start).1.pending.drafts) :
    draft ∈ start.1.pending.drafts ∨ Staged operations start draft := by
  induction operations using List.reverseRecOn with
  | nil => exact .inl waiting
  | append_singleton operations last ih =>
      rw [run, List.foldl_append] at waiting
      cases pending_perform waiting with
      | inl before => exact (ih before).imp_right fun staged => staged.append [last]
      | inr typing =>
          obtain ⟨typed, same, stages⟩ := typing
          exact .inr ⟨operations, [], typed, by rw [same], stages⟩

end Operation

end PropertyPanel

/-
This file proves how a draft that waits for the host can leave the buffer in a run.
-/

import PropertyPanel.Diagram.Locked
import PropertyPanel.Proofs.Audit
import PropertyPanel.Proofs.Panel.Run

namespace PropertyPanel

variable {Host : Type} [DiagramHost Host]

namespace Operation

/-- A change from outside is no report. -/
def audited : Operation Host → Operation (Audited Host)
  | select id => .select id
  | clearSelection => .clearSelection
  | input field value => .input field value
  | save => .save
  | switchSubtype name => .switchSubtype name
  | render => .render
  | event given => .event given
  | change made => .change fun host => { host with host := made host.host }

/-- The run of a panel on a host whose reports are recorded. -/
def auditedRun (operations : List (Operation Host)) (state : Panel × Audited Host) :
    Panel × Audited Host :=
  run (operations.map audited) state

theorem extends_perform (operation : Operation Host) (state : Panel × Audited Host) :
    Audited.Extends (operation.audited.perform state).2 state.2 := by
  obtain ⟨panel, host⟩ := state
  have saved := Audited.extends_save panel host
  refine operation.audited.host_perform (Audited.Extends · host) panel host (.refl host) saved
    (fun id name _ _ => (Audited.extends_rewriteSubtype _ _ id name).trans saved)
    (fun made same => ?_)
  cases operation <;> cases same
  exact .refl host

theorem extends_auditedRun (operations : List (Operation Host)) (state : Panel × Audited Host) :
    Audited.Extends (auditedRun operations state).2 state.2 := by
  induction operations generalizing state with
  | nil => exact .refl state.2
  | cons operation rest ih => exact (ih _).trans (extends_perform operation state)

/-- A draft that leaves at an operation that saves leaves in the save, before anything else. -/
theorem perform_saved {operation : Operation Host} (saves : operation.saves = true)
    {before : Panel × Audited Host} {draft : Draft} (waiting : draft ∈ before.1.pending.drafts)
    (gone : draft ∉ (operation.audited.perform before).1.pending.drafts) :
    (operation.audited.perform before).1.pending = (before.1.save before.2).1.pending ∧
      Audited.Extends (operation.audited.perform before).2 (before.1.save before.2).2.1 := by
  obtain ⟨panel, host⟩ := before
  cases operation with
  | select id =>
      obtain ⟨pending, left⟩ := panel.select_saved host id
      refine ⟨pending, ?_⟩
      change Audited.Extends (panel.select host id).2.1 _
      rw [left]
      exact .refl _
  | clearSelection => exact ⟨rfl, .refl _⟩
  | input field value => cases saves
  | save => exact ⟨rfl, .refl _⟩
  | switchSubtype name =>
      change draft ∉ (panel.switchSubtype host name).1.pending.drafts at gone
      cases panel.switchSubtype_saved host name with
      | inl still =>
          rw [still.1] at gone
          exact absurd waiting gone
      | inr moved =>
          obtain ⟨id, pending, rewritten⟩ := moved
          refine ⟨pending, ?_⟩
          change Audited.Extends (panel.switchSubtype host name).2.1 _
          rw [rewritten]
          exact Audited.extends_rewriteSubtype _ _ id name
  | render => cases saves
  | event given =>
      cases given with
      | importDone => cases saves
      | selectionChanged selection =>
          change draft ∉ (panel.handle host (.selectionChanged selection)).1.pending.drafts at gone
          cases panel.handle_selectionChanged host selection with
          | inl still =>
              rw [still] at gone
              exact absurd waiting gone
          | inr moved =>
              refine ⟨moved.1, ?_⟩
              change Audited.Extends (panel.handle host (.selectionChanged selection)).2 _
              rw [moved.2]
              exact .refl _
  | change made => cases saves

/-- A newer draft has taken the place of a draft. -/
def Replaced (draft : Draft) (after : Panel × Audited Host) : Prop :=
  ∃ newer ∈ after.1.pending.drafts, newer.key = draft.key

/-- An import comes after the element of a draft has gone. -/
def Vanished (draft : Draft) (operation : Operation Host) (before : Panel × Audited Host) : Prop :=
  operation = .event .importDone ∧ DiagramHost.elementType? before.2 draft.element = none

/-- The host has accepted a report of the value of a draft. -/
def Told (draft : Draft) (start after : Panel × Audited Host) : Prop :=
  ∃ report ∈ Audited.since start.2 after.2, report.tells draft

/-- A save comes to a draft when the edit that it asks for changes nothing that can be read. -/
def Unnoticed (draft : Draft) (operation : Operation Host) (before : Panel × Audited Host) :
    Prop :=
  let locations := before.1.configuration.locations
  operation.saves = true ∧
    ∃ passed rest object after, before.1.pending.drafts = passed ++ draft :: rest ∧
      let host := DraftBuffer.replay (Panel.applyDraft locations) passed before.2
      DiagramHost.businessObject? host draft.element = some object ∧
        locations.edit (DiagramHost.factory host draft.element) draft object = (after, .ok ()) ∧
        locations.read object draft.field draft.location =
          locations.read after draft.field draft.location

/-- A draft that leaves at an operation that does not save is replaced or has no element. -/
theorem perform_unsaved {operation : Operation Host} (unsaved : operation.saves = false)
    {before : Panel × Audited Host} {draft : Draft} (waiting : draft ∈ before.1.pending.drafts)
    (gone : draft ∉ (operation.audited.perform before).1.pending.drafts) :
    Replaced draft (operation.audited.perform before) ∨ Vanished draft operation before := by
  obtain ⟨panel, host⟩ := before
  cases operation with
  | select id => cases unsaved
  | clearSelection => cases unsaved
  | input field value =>
      refine .inl ?_
      change draft ∉ (panel.input host field value).1.pending.drafts at gone
      change ∃ newer ∈ (panel.input host field value).1.pending.drafts, _
      unfold Panel.input at gone ⊢
      split at gone
      · dsimp only at gone ⊢
        split at gone
        · exact absurd waiting gone
        · rename_i editable
          rw [DraftBuffer.mem_stage, not_or, not_and, Classical.not_not] at gone
          rw [if_neg editable]
          exact ⟨_, DraftBuffer.mem_stage.mpr (.inl rfl), (gone.2 waiting).symm⟩
      · exact absurd waiting gone
  | save => cases unsaved
  | switchSubtype name => cases unsaved
  | render =>
      change draft ∉ (panel.render host).1.pending.drafts at gone
      rw [Panel.pending_render] at gone
      exact absurd waiting gone
  | event given =>
      cases given with
      | importDone =>
          refine .inr ⟨rfl, ?_⟩
          change draft ∉ (panel.onImport host).pending.drafts at gone
          rw [Panel.pending_onImport] at gone
          have dropped : ¬ (DiagramHost.elementType? host draft.element).isSome = true :=
            fun known => gone (List.mem_filter.mpr ⟨waiting, known⟩)
          simpa using dropped
      | selectionChanged selection => cases unsaved
  | change made => exact absurd waiting gone

/-- A draft that leaves in a save goes in unnoticed, or the host accepts a report of it. -/
theorem perform_applied {operation : Operation Host} (saves : operation.saves = true)
    {before : Panel × Audited Host} {draft : Draft} (waiting : draft ∈ before.1.pending.drafts)
    (gone : draft ∉ (operation.audited.perform before).1.pending.drafts) :
    Unnoticed draft operation before ∨
      Told draft before (operation.audited.perform before) := by
  obtain ⟨panel, host⟩ := before
  obtain ⟨left, recorded⟩ := perform_saved saves waiting gone
  rw [left] at gone
  by_cases ready : panel.ready = true
  · rw [Panel.drafts_save host ready] at gone
    rw [Panel.host_save host ready] at recorded
    let apply : Draft → Audited Host → _ := Panel.applyDraft panel.configuration.locations
    obtain ⟨passed, rest, listed, applied⟩ := DraftBuffer.failed_departure apply waiting gone
    have application := Panel.applyDraft_cases panel.configuration.locations draft
      (DraftBuffer.replay apply passed host)
    have reached : Audited.Extends (DraftBuffer.replay apply passed host) host :=
      Audited.extends_replay _ passed host
    have later : Audited.Extends (operation.audited.perform (panel, host)).2
        (apply draft (DraftBuffer.replay apply passed host)).1 := by
      refine recorded.trans ?_
      rw [listed, DraftBuffer.replay_append]
      exact Audited.extends_replay _ rest _
    change Panel.Application _ draft _ (apply draft _) at application
    generalize apply draft (DraftBuffer.replay apply passed host) = result
      at applied application later
    cases application with
    | unknown missing => cases applied
    | stuck object error present outcome => cases applied
    | unnoticed object after present outcome same =>
        exact .inl ⟨saves, passed, rest, object, after, listed, present, outcome, same⟩
    | reported object after present outcome different =>
        have edited := (Audited.extends_replaceObject _ draft.element after).trans reached
        refine .inr ⟨⟨draft.element, [draft.update], true⟩, ?_, rfl, rfl, ?_⟩
        · exact Audited.since_extends later (Audited.since_updateProperties edited applied)
        · exact ⟨draft.update, List.mem_singleton_self _, rfl, rfl⟩
  · rw [Panel.save, if_neg ready] at gone
    exact absurd waiting gone

/-- A draft that is gone after a run has left at one of its operations. -/
theorem auditedRun_leaves {operations : List (Operation Host)} {start : Panel × Audited Host}
    {draft : Draft} (waiting : draft ∈ start.1.pending.drafts)
    (gone : draft ∉ (auditedRun operations start).1.pending.drafts) :
    ∃ earlier operation later, operations = earlier ++ operation :: later ∧
      draft ∈ (auditedRun earlier start).1.pending.drafts ∧
      draft ∉ (operation.audited.perform (auditedRun earlier start)).1.pending.drafts := by
  induction operations generalizing start with
  | nil => exact absurd waiting gone
  | cons first rest ih =>
      by_cases kept : draft ∈ (first.audited.perform start).1.pending.drafts
      · obtain ⟨earlier, operation, later, split, held, left⟩ := ih kept gone
        exact ⟨first :: earlier, operation, later, by rw [split, List.cons_append], held, left⟩
      · exact ⟨[], first, rest, rfl, waiting, kept⟩

/-- A draft that leaves the buffer in a run has been replaced, has lost its element, or has been
reported to the host and accepted, unless a save has found its value in the object already. -/
theorem draft_leaves (start : Panel × Audited Host) (operations : List (Operation Host))
    (draft : Draft) (waiting : draft ∈ start.1.pending.drafts)
    (gone : draft ∉ (auditedRun operations start).1.pending.drafts) :
    ∃ earlier operation later, operations = earlier ++ operation :: later ∧
      let before := auditedRun earlier start
      let after := operation.audited.perform before
      draft ∈ before.1.pending.drafts ∧ draft ∉ after.1.pending.drafts ∧
        (Replaced draft after ∨ Vanished draft operation before ∨ Told draft start after ↔
          ¬ (Unnoticed draft operation before ∧ ¬ Told draft start after)) := by
  obtain ⟨earlier, operation, later, split, held, left⟩ := auditedRun_leaves waiting gone
  refine ⟨earlier, operation, later, split, held, left, ?_⟩
  have begun : Audited.Extends (auditedRun earlier start).2 start.2 :=
    extends_auditedRun earlier start
  cases saves : operation.saves with
  | false =>
      have cause := perform_unsaved saves held left
      refine ⟨fun _ => ?_, fun _ => ?_⟩
      · rintro ⟨⟨saved, _⟩, _⟩
        cases saves.symm.trans saved
      · cases cause with
        | inl replaced => exact .inl replaced
        | inr vanished => exact .inr (.inl vanished)
  | true =>
      constructor
      · rintro cause ⟨_, untold⟩
        rcases cause with replaced | vanished | told
        · obtain ⟨newer, present, same⟩ := replaced
          rw [(perform_saved saves held left).1] at present left
          have old := (Panel.save_sublist _ _).subset present
          rw [DraftBuffer.eq_of_key old held same] at present
          exact left present
        · obtain ⟨imported, _⟩ := vanished
          rw [imported] at saves
          cases saves
        · exact untold told
      · intro noticed
        refine .inr (.inr ?_)
        cases perform_applied saves held left with
        | inl unnoticed =>
            by_cases told : Told draft start (operation.audited.perform (auditedRun earlier start))
            · exact told
            · exact absurd ⟨unnoticed, told⟩ noticed
        | inr told =>
            obtain ⟨report, recent, tells⟩ := told
            exact ⟨report, Audited.since_later begun recent, tells⟩

section Retry

/-- A task whose name is shown and can be locked. -/
def lockedTask : Panel × Audited LockedDiagram :=
  (Panel.new ⟨.ofList [("attribute", ⟨"attribute", [.leaf .fieldId]⟩)],
      .ofList [("name", .atLocation "attribute")], .ofList [("Task", ⟨some .empty, []⟩)], []⟩,
    ⟨⟨(Diagram.new .permissive).insert (.new "task" "Task"), ["name"]⟩, []⟩)

def rejectedDraft : Draft := ⟨"task", "name", .atLocation "attribute", some (.text "n")⟩

/-- The name is typed and refused in a save, and then the host is changed. -/
def rejectedRun (made : LockedDiagram → LockedDiagram) : Panel × Audited LockedDiagram :=
  auditedRun [.event .importDone, .select "task", .input "name" (.text "n"), .save, .change made]
    lockedTask

def unlocked (host : LockedDiagram) : LockedDiagram := { host with locked := [] }

/-- The diagram is unlocked and the refused name is taken back. -/
def restored (host : LockedDiagram) : LockedDiagram :=
  ⟨host.diagram.insert (.new "task" "Task"), []⟩

/-- A refused name that is taken back is reported when it is saved again. -/
theorem draft_leaves_restored :
    rejectedDraft ∈ (rejectedRun restored).1.pending.drafts ∧
      rejectedDraft ∉ (auditedRun [.save] (rejectedRun restored)).1.pending.drafts ∧
      ¬ (Unnoticed rejectedDraft .save (rejectedRun restored) ∧
        ¬ Told rejectedDraft (rejectedRun restored)
          ((save : Operation LockedDiagram).audited.perform (rejectedRun restored))) := by
  have waiting : rejectedDraft ∈ (rejectedRun restored).1.pending.drafts := by decide
  have gone : rejectedDraft ∉ (auditedRun [.save] (rejectedRun restored)).1.pending.drafts := by
    decide
  obtain ⟨earlier, operation, later, split, _, _, cause⟩ :=
    draft_leaves (rejectedRun restored) [.save] rejectedDraft waiting gone
  cases earlier with
  | nil =>
      cases split
      have told : Told rejectedDraft (rejectedRun restored)
          ((save : Operation LockedDiagram).audited.perform (rejectedRun restored)) :=
        ⟨⟨"task", [rejectedDraft.update], true⟩, by decide, rfl, rfl, _, List.mem_singleton_self _,
          rfl, rfl⟩
      exact ⟨waiting, gone, cause.mp (.inr (.inr told))⟩
  | cons first rest => cases rest <;> cases split

/-- A refused name leaves in the next save with a notice of success and without a report. -/
theorem rejected_draft_leaves_untold :
    let before := rejectedRun unlocked
    let after := (save : Operation LockedDiagram).audited.perform before
    before.2.reports = [⟨"task", [rejectedDraft.update], false⟩] ∧
      rejectedDraft ∈ before.1.pending.drafts ∧ rejectedDraft ∉ after.1.pending.drafts ∧
      after.1.notice = some .saved ∧ after.2.host.diagram.mutations = [] ∧
      ¬ (Replaced rejectedDraft after ∨ Vanished rejectedDraft .save before ∨
        Told rejectedDraft before after) := by
  intro before after
  refine ⟨by decide, by decide, by decide, by decide, by decide, ?_⟩
  rintro (replaced | vanished | told)
  · obtain ⟨newer, present, _⟩ := replaced
    have empty : after.1.pending.drafts = [] := by decide
    rw [empty] at present
    cases present
  · cases vanished.1
  · obtain ⟨report, recent, _⟩ := told
    have empty : Audited.since before.2 after.2 = [] := by decide
    rw [empty] at recent
    cases recent

end Retry

end Operation

end PropertyPanel

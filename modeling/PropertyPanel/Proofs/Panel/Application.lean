/-
This file proves what can become of a draft when a panel applies it, what a save leaves, and what a
host keeps in saves and in rewrites.
-/

import PropertyPanel.Panel
import PropertyPanel.Proofs.Diagram.Slice
import PropertyPanel.Proofs.DraftBuffer
import PropertyPanel.Proofs.Resolution.Write

namespace PropertyPanel.Panel

variable {Host : Type} [DiagramHost Host]

/-- The host after a draft has edited an object in place. -/
def edited (host : Host) (draft : Draft) (object : BusinessObject) : Host :=
  DiagramHost.replaceObject host draft.element object

/-- A draft misses its element, is stuck on its way, goes in unnoticed, or is reported. -/
inductive Application (locations : LocationTable) (draft : Draft) (host : Host) :
    Host × Except ApplyError Unit → Prop where
  | unknown (missing : DiagramHost.businessObject? host draft.element = none) :
      Application locations draft host (host, .error (.unknownElement draft.element))
  | stuck (object : BusinessObject) (error : ApplyError)
      (present : DiagramHost.businessObject? host draft.element = some object)
      (outcome : (locations.edit (DiagramHost.factory host draft.element) draft object).2 =
        .error error) :
      Application locations draft host (edited host draft object, .error error)
  | unnoticed (object after : BusinessObject)
      (present : DiagramHost.businessObject? host draft.element = some object)
      (outcome : locations.edit (DiagramHost.factory host draft.element) draft object =
        (after, .ok ()))
      (same : locations.read object draft.field draft.location =
        locations.read after draft.field draft.location) :
      Application locations draft host (edited host draft after, .ok ())
  | reported (object after : BusinessObject)
      (present : DiagramHost.businessObject? host draft.element = some object)
      (outcome : locations.edit (DiagramHost.factory host draft.element) draft object =
        (after, .ok ()))
      (different : locations.read object draft.field draft.location ≠
        locations.read after draft.field draft.location) :
      Application locations draft host
        (DiagramHost.updateProperties (edited host draft after) draft.element [draft.update])

theorem applyDraft_cases (locations : LocationTable) (draft : Draft) (host : Host) :
    Application locations draft host (applyDraft locations draft host) := by
  unfold applyDraft
  split
  · rename_i missing
    exact .unknown missing
  · rename_i object present
    rcases edit : locations.edit (DiagramHost.factory host draft.element) draft object with
      ⟨after, outcome⟩
    cases outcome with
    | error error =>
        have kept := locations.edit_failed _ draft object error (congrArg Prod.snd edit)
        rw [edit] at kept
        subst kept
        exact .stuck _ error present (congrArg Prod.snd edit)
    | ok =>
        dsimp only
        split
        · rename_i same
          exact .unnoticed object after present edit same
        · rename_i different
          exact .reported object after present edit different

section Ready

variable (host : Host) {panel : Panel} (ready : panel.ready = true)

include ready

/-- A save by a ready panel applies its drafts one after the other. -/
theorem host_save :
    (panel.save host).2.1 = DraftBuffer.replay (applyDraft panel.configuration.locations)
      panel.pending.drafts host := by
  rw [save, if_pos ready]
  exact DraftBuffer.flush_state _ panel.pending host

/-- A save by a ready panel leaves the drafts that fail. -/
theorem drafts_save :
    (panel.save host).1.pending.drafts = DraftBuffer.failed
      (applyDraft panel.configuration.locations) panel.pending.drafts host := by
  rw [save, if_pos ready]
  exact DraftBuffer.flush_drafts _ panel.pending host

/-- A save by a ready panel is a success if there are drafts and none of them fails. -/
theorem save_eq_saved :
    (panel.save host).2.2 = some .saved ↔
      panel.pending.drafts ≠ [] ∧ (panel.save host).1.pending.drafts = [] := by
  rw [drafts_save host ready, save, if_pos ready]
  change Notice.ofStatus (panel.pending.flush _ host).2.2 = _ ↔ _
  rw [DraftBuffer.flush_status]
  by_cases empty : panel.pending.drafts = []
  · simp [empty, Notice.ofStatus]
  · rw [if_neg empty]
    split
    · rename_i none
      simp [empty, none, Notice.ofStatus]
    · rename_i some
      simp [some, Notice.ofStatus]

end Ready

/-- What every draft keeps of the host is kept by a save. -/
theorem save_kept (Kept : Host → Prop) {panel : Panel} {host : Host} (start : Kept host)
    (step : ∀ draft ∈ panel.pending.drafts, ∀ host, Kept host →
      Kept (applyDraft panel.configuration.locations draft host).1) :
    Kept (panel.save host).2.1 := by
  by_cases ready : panel.ready = true
  · rw [host_save host ready]
    exact DraftBuffer.replay_kept _ start step
  · rw [save, if_neg ready]
    exact start

/-- What a replacement of the object and a report keep of the host is kept by a rewrite. -/
theorem rewriteSubtype_kept (Kept : Host → Prop) {panel : Panel} {host : Host} {id : ElementId}
    {name : String} (start : Kept host)
    (replaced : ∀ elementType element before,
      panel.configuration.element? elementType = some element →
        DiagramHost.businessObject? host id = some before →
          Kept (DiagramHost.replaceObject host id (panel.configuration.locations.switchTo
            (DiagramHost.factory host id) element name before).1))
    (reported : ∀ left updates, Kept left → Kept (DiagramHost.updateProperties left id updates).1) :
    Kept (panel.rewriteSubtype host id name).1 := by
  unfold rewriteSubtype
  split
  · exact start
  · split
    · exact start
    · exact start
    · rename_i element before configured present
      have rewritten := replaced _ element before configured present
      dsimp only
      split
      · exact rewritten
      · split
        · exact rewritten
        · exact reported _ _ rewritten

/-- A draft changes nothing in a diagram but its own element. -/
theorem frame_applyDraft (locations : LocationTable) (draft : Draft) (diagram : Diagram) :
    diagram.Frame (· = draft.element) (applyDraft locations draft diagram).1 := by
  have application := applyDraft_cases locations draft diagram
  generalize applyDraft locations draft diagram = result at application
  cases application with
  | unknown missing => exact .refl diagram
  | stuck object error present outcome => exact Diagram.frame_replaceObject _ _
  | unnoticed object after present outcome same => exact Diagram.frame_replaceObject _ _
  | reported object after present outcome different =>
      exact (Diagram.frame_replaceObject _ after).trans (Diagram.frame_updateProperties _ _)

/-- A rewrite to a subtype changes nothing in a diagram but its own element. -/
theorem frame_rewriteSubtype (panel : Panel) (diagram : Diagram) (id : ElementId) (name : String) :
    diagram.Frame (· = id) (panel.rewriteSubtype diagram id name).1 :=
  rewriteSubtype_kept (diagram.Frame (· = id)) (.refl diagram)
    (fun _ _ _ _ _ => Diagram.frame_replaceObject id _)
    (fun _ updates frame => frame.trans (Diagram.frame_updateProperties id updates))

variable [LawfulHost Host] {locations : LocationTable} {draft : Draft} {host : Host}

theorem businessObject?_edited {object : BusinessObject} (after : BusinessObject)
    (present : DiagramHost.businessObject? host draft.element = some object) :
    DiagramHost.businessObject? (edited host draft after) draft.element = some after := by
  rw [edited, LawfulHost.businessObject?_replaceObject _ _ _ _ _ present, if_pos rfl]

/-- A draft that is applied has edited the object of its element. -/
theorem applyDraft_applied (applied : (applyDraft locations draft host).2 = .ok ()) :
    ∃ object, DiagramHost.businessObject? host draft.element = some object ∧
      (locations.edit (DiagramHost.factory host draft.element) draft object).2 = .ok () ∧
      DiagramHost.businessObject? (applyDraft locations draft host).1 draft.element =
        some (locations.edit (DiagramHost.factory host draft.element) draft object).1 := by
  have application := applyDraft_cases locations draft host
  generalize applyDraft locations draft host = result at applied application
  cases application with
  | unknown missing => cases applied
  | stuck object error present outcome => cases applied
  | unnoticed object after present outcome same =>
      refine ⟨object, present, by rw [outcome], ?_⟩
      rw [businessObject?_edited _ present, outcome]
  | reported object after present outcome different =>
      refine ⟨object, present, by rw [outcome], ?_⟩
      rw [LawfulHost.businessObject?_updateProperties, businessObject?_edited _ present, outcome]

/-- A draft changes the type of no element. -/
theorem elementType?_applyDraft (id : ElementId) :
    DiagramHost.elementType? (applyDraft locations draft host).1 id =
      DiagramHost.elementType? host id := by
  have application := applyDraft_cases locations draft host
  generalize applyDraft locations draft host = result at application
  cases application with
  | unknown missing => rfl
  | stuck object error present outcome => exact LawfulHost.elementType?_replaceObject _ _ _ _
  | unnoticed object after present outcome same =>
      exact LawfulHost.elementType?_replaceObject _ _ _ _
  | reported object after present outcome different =>
      rw [LawfulHost.elementType?_updateProperties]
      exact LawfulHost.elementType?_replaceObject _ _ _ _

end PropertyPanel.Panel

/-
This file keeps a record of every report to a host together with the answer of the host.
-/

import PropertyPanel.Panel
import PropertyPanel.Proofs.DraftBuffer
import PropertyPanel.Proofs.Panel.Application

namespace PropertyPanel

structure Report where
  element : ElementId
  updates : List PropertyUpdate
  accepted : Bool
  deriving DecidableEq

/-- An audited host lists its reports from the first to the last. -/
structure Audited (Host : Type) where
  host : Host
  reports : List Report

namespace Audited

variable {Host : Type} [DiagramHost Host]

instance : DiagramHost (Audited Host) where
  elementType? audited := DiagramHost.elementType? audited.host
  businessObject? audited := DiagramHost.businessObject? audited.host
  factory audited := DiagramHost.factory audited.host
  replaceObject audited id object :=
    { audited with host := DiagramHost.replaceObject audited.host id object }
  updateProperties audited id updates :=
    let (host, outcome) := DiagramHost.updateProperties audited.host id updates
    (⟨host, audited.reports ++ [⟨id, updates, outcome.isOk⟩]⟩, outcome)

/-- The reports that one host has and an earlier one has not. -/
def since (earlier later : Audited Host) : List Report := later.reports.drop earlier.reports.length

/-- The reports of an earlier host come first in a later one. -/
def Extends (later earlier : Audited Host) : Prop := earlier.reports <+: later.reports

omit [DiagramHost Host] in
theorem Extends.refl (host : Audited Host) : Extends host host := List.prefix_rfl

omit [DiagramHost Host] in
theorem Extends.trans {last middle first : Audited Host} (later : Extends last middle)
    (earlier : Extends middle first) : Extends last first := List.IsPrefix.trans earlier later

omit [DiagramHost Host] in
/-- What is reported before a later host is also reported before the last one. -/
theorem since_extends {last later first : Audited Host} (more : Extends last later)
    {report : Report} (recent : report ∈ since first later) : report ∈ since first last := by
  obtain ⟨added, same⟩ := more
  rw [since] at recent ⊢
  rw [← same]
  by_cases short : first.reports.length ≤ later.reports.length
  · rw [List.drop_append_of_le_length short]
    exact List.mem_append_left _ recent
  · rw [List.drop_of_length_le (by omega)] at recent
    cases recent

omit [DiagramHost Host] in
/-- What is reported since a later host is also reported since an earlier one. -/
theorem since_later {last later first : Audited Host} (more : Extends later first)
    {report : Report} (recent : report ∈ since later last) : report ∈ since first last :=
  List.drop_subset_drop_left _ more.length_le recent

/-- The report that a host accepts is the last of its reports. -/
theorem since_updateProperties {host first : Audited Host} (more : Extends host first)
    {id : ElementId} {updates : List PropertyUpdate}
    (accepted : (DiagramHost.updateProperties host id updates).2 = .ok ()) :
    ⟨id, updates, true⟩ ∈ since first (DiagramHost.updateProperties host id updates).1 := by
  have recorded : (DiagramHost.updateProperties host id updates).1.reports =
      host.reports ++ [⟨id, updates, true⟩] := by
    change host.reports ++ [⟨id, updates,
      (DiagramHost.updateProperties host id updates).2.isOk⟩] = _
    rw [accepted]
    rfl
  rw [since, recorded, List.drop_append_of_le_length more.length_le]
  exact List.mem_append_right _ (List.mem_singleton_self _)

theorem extends_replaceObject (host : Audited Host) (id : ElementId) (object : BusinessObject) :
    Extends (DiagramHost.replaceObject host id object) host := .refl host

theorem extends_updateProperties (host : Audited Host) (id : ElementId)
    (updates : List PropertyUpdate) :
    Extends (DiagramHost.updateProperties host id updates).1 host := List.prefix_append _ _

theorem extends_applyDraft (locations : LocationTable) (draft : Draft) (host : Audited Host) :
    Extends (Panel.applyDraft locations draft host).1 host := by
  have application := Panel.applyDraft_cases locations draft host
  generalize Panel.applyDraft locations draft host = result at application
  cases application with
  | unknown => exact .refl host
  | stuck object error => exact extends_replaceObject host draft.element object
  | unnoticed object after => exact extends_replaceObject host draft.element after
  | reported object after =>
      exact (extends_updateProperties _ _ _).trans
        (extends_replaceObject host draft.element after)

theorem extends_replay (locations : LocationTable) (drafts : List Draft) (host : Audited Host) :
    Extends (DraftBuffer.replay (Panel.applyDraft locations) drafts host) host :=
  DraftBuffer.replay_kept _ (.refl host) fun draft _ after more =>
    (extends_applyDraft locations draft after).trans more

theorem extends_save (panel : Panel) (host : Audited Host) :
    Extends (panel.save host).2.1 host :=
  Panel.save_kept (Extends · host) (.refl host) fun draft _ after more =>
    (extends_applyDraft _ draft after).trans more

theorem extends_rewriteSubtype (panel : Panel) (host : Audited Host) (id : ElementId)
    (name : String) : Extends (panel.rewriteSubtype host id name).1 host :=
  Panel.rewriteSubtype_kept (Extends · host) (.refl host)
    (fun _ _ _ _ _ => extends_replaceObject host id _)
    (fun left updates more => (extends_updateProperties left id updates).trans more)

end Audited

/-- An accepted report of the value of a draft. -/
def Report.tells (report : Report) (draft : Draft) : Prop :=
  report.accepted = true ∧ report.element = draft.element ∧
    ∃ update ∈ report.updates, update.field = draft.field ∧ update.value = draft.value

end PropertyPanel

/-
This file proves what a switch to another subtype leaves behind when it fails.
-/

import PropertyPanel.Proofs.Host
import PropertyPanel.Proofs.Panel.Run
import PropertyPanel.Proofs.Resolution.Switch

namespace PropertyPanel.Panel

variable {Host : Type} [DiagramHost Host] (panel : Panel) (host : Host)

/-- The updates that a switch writes to the object of an element before it ends or fails. -/
def performed (id : ElementId) (name : String) (object : BusinessObject) : List PropertyUpdate :=
  match (DiagramHost.elementType? host id).bind panel.configuration.element? with
  | some element =>
      panel.configuration.locations.performed (DiagramHost.factory host id) element name object
  | none => []

/-- The object of an element after the updates that a switch performs. -/
def switched (id : ElementId) (name : String) (object : BusinessObject) : BusinessObject :=
  panel.configuration.locations.replay (DiagramHost.factory host id)
    (panel.performed host id name object) object

variable {panel host}

/-- A rewrite without a configured object does nothing. -/
theorem rewriteSubtype_missing {id : ElementId} {name : String}
    (missing : (DiagramHost.elementType? host id).bind panel.configuration.element? = none ∨
      DiagramHost.businessObject? host id = none) :
    (panel.rewriteSubtype host id name).1 = host := by
  unfold rewriteSubtype
  split
  · rfl
  · rename_i elementType typed
    rw [typed, Option.bind_some] at missing
    split
    · rfl
    · rfl
    · rename_i configured present
      cases missing with
      | inl missing => cases configured.symm.trans missing
      | inr missing => cases present.symm.trans missing

/-- A rewrite that fails has edited the object of its element and nothing else. -/
theorem rewriteSubtype_failed [LawfulHost Host] {id : ElementId} {name : String}
    {error : ApplyError} (failed : (panel.rewriteSubtype host id name).2 = .error error)
    {object : BusinessObject} (present : DiagramHost.businessObject? host id = some object) :
    (panel.rewriteSubtype host id name).1 =
      DiagramHost.replaceObject host id (panel.switched host id name object) := by
  cases configured : (DiagramHost.elementType? host id).bind panel.configuration.element? with
  | none =>
      rw [rewriteSubtype_missing (.inl configured), switched, performed, configured]
      exact (LawfulHost.replaceObject_same host id object present).symm
  | some element =>
      have written := panel.configuration.locations.switchTo_performed
        (DiagramHost.factory host id) element name object
      obtain ⟨elementType, typed, known⟩ := Option.bind_eq_some_iff.mp configured
      simp only [rewriteSubtype, typed, known, present] at failed ⊢
      rw [switched, performed, configured, ← written]
      split at failed
      · rfl
      · split at failed
        · cases failed
        · rename_i reported
          rw [if_neg reported]
          exact LawfulHost.updateProperties_refused _ _ _ error failed

/-- A switch that fails has saved the drafts and then failed to rewrite the selected element. -/
theorem switchSubtype_error {name : String} {error : ApplyError}
    (failed : (panel.switchSubtype host name).2.2 = .error error) :
    ∃ id, panel.current = some id ∧
      (panel.switchSubtype host name).1 = (panel.save host).1 ∧
      (panel.switchSubtype host name).2.1 =
        ((panel.save host).1.rewriteSubtype (panel.save host).2.1 id name).1 ∧
      ((panel.save host).1.rewriteSubtype (panel.save host).2.1 id name).2 = .error error := by
  unfold switchSubtype at failed ⊢
  split at failed
  · cases failed
  · rename_i id selected
    refine ⟨id, selected, ?_⟩
    split at failed
    · rename_i known
      simp only [if_pos known] at failed ⊢
      split at failed
      · rename_i left stuck outcome
        cases failed
        simp only [outcome, and_self]
      · cases failed
    · cases failed

/-- A switch that fails reports nothing and keeps the subtype, but the object is the one after the
drafts only if the updates that were written before the failure leave it as it was. -/
theorem switchSubtype_failed [LawfulHost Host] {Log : Type} (log : Host → Log)
    (silent : ∀ host id object, log (DiagramHost.replaceObject host id object) = log host)
    (panel : Panel) (host : Host) (name : String) (error : ApplyError)
    (failed : (panel.switchSubtype host name).2.2 = .error error) :
    let flushed := (panel.save host).2.1
    let left := (panel.switchSubtype host name).2.1
    ∃ id, panel.current = some id ∧
      (panel.switchSubtype host name).1.selectedSubtype = panel.selectedSubtype ∧
      log left = log flushed ∧
      (DiagramHost.businessObject? left id = DiagramHost.businessObject? flushed id ↔
        ∀ object, DiagramHost.businessObject? flushed id = some object →
          panel.switched flushed id name object = object) := by
  intro flushed left
  obtain ⟨id, selected, kept, rewritten, stuck⟩ := switchSubtype_error failed
  have same : (panel.save host).1.switched flushed id name = panel.switched flushed id name := by
    funext object
    simp only [switched, performed, configuration_save]
  refine ⟨id, selected, by rw [kept, selectedSubtype_save], ?_⟩
  cases present : DiagramHost.businessObject? flushed id with
  | none =>
      have untouched : left = flushed := rewritten.trans (rewriteSubtype_missing (.inr present))
      simp [untouched, present]
  | some object =>
      have edited : left = DiagramHost.replaceObject flushed id
          (panel.switched flushed id name object) := by
        rw [← same]
        exact rewritten.trans (rewriteSubtype_failed stuck present)
      rw [edited, LawfulHost.businessObject?_replaceObject flushed id id object _ present]
      simp [silent]

section HalfRewritten

/-- Plain tasks have a kind, and deep tasks have a mode and a detail node. -/
def taskSubtypes : List ElementSubtype :=
  [⟨"plain", [⟨"kind", "attribute", some (.text "x")⟩], .empty⟩,
    ⟨"deep", [⟨"mode", "attribute", some (.text "y")⟩, ⟨"detail", "detail", some (.text "z")⟩],
      .empty⟩]

def taskLocations : LocationTable :=
  .ofList [("attribute", ⟨"attribute", [.leaf .fieldId]⟩),
    ("detail", ⟨"detail", [.child (.literal "detail") "Detail" .none false]⟩)]

def taskPanel : Panel :=
  { new ⟨taskLocations, .empty, .ofList [("Task", ⟨none, taskSubtypes⟩)], []⟩ with
    ready := true
    current := some "task"
    selectedSubtype := some "plain" }

/-- A diagram with one plain task. -/
def plainDiagram (registry : TypeRegistry) : Diagram :=
  (Diagram.new registry).insert
    ⟨"task", "Task", (BusinessObject.empty "Task").setScalar "kind" (some (.text "x"))⟩

def lockedDiagram : LockedDiagram := ⟨plainDiagram .permissive, ["mode"]⟩

/-- A diagram that refuses the mode of the task has no report of the switch, but the rewritten
task is not the plain one any more. -/
theorem switchSubtype_failed_locked :
    (taskPanel.switchSubtype lockedDiagram "deep").2.2 =
        .error (.rejected "task" "mode is locked") ∧
      (taskPanel.switchSubtype lockedDiagram "deep").1.selectedSubtype = some "plain" ∧
      (taskPanel.switchSubtype lockedDiagram "deep").2.1.diagram.mutations = [] ∧
      DiagramHost.businessObject? (taskPanel.switchSubtype lockedDiagram "deep").2.1 "task" ≠
        DiagramHost.businessObject? (taskPanel.save lockedDiagram).2.1 "task" := by
  have refused : (taskPanel.switchSubtype lockedDiagram "deep").2.2 =
      .error (.rejected "task" "mode is locked") := by rfl
  obtain ⟨id, selected, kept, log, condition⟩ := switchSubtype_failed
    (fun host : LockedDiagram => host.diagram.mutations)
    (fun host id object => host.diagram.mutations_replaceObject id object)
    taskPanel lockedDiagram "deep" _ refused
  cases selected
  refine ⟨refused, kept, log, ?_⟩
  rw [Ne, condition]
  intro unchanged
  have kind := congrArg (BusinessObject.scalar? · "kind") (unchanged _ rfl)
  revert kind
  decide

/-- A diagram that knows no detail nodes fails a switch after the kind of the task is cleared. -/
theorem switchSubtype_half_rewritten :
    let diagram := plainDiagram (.ofList ["Task"])
    let flushed := (taskPanel.save diagram).2.1
    let (panel, left, outcome) := taskPanel.switchSubtype diagram "deep"
    outcome = .error (.unknownType "Detail") ∧
      panel.selectedSubtype = some "plain" ∧
      left.mutations = flushed.mutations ∧
      left.businessObject? "task" ≠ flushed.businessObject? "task" ∧
      panel.determineSubtype flushed "task" = some "plain" ∧
      panel.determineSubtype left "task" = none := by
  refine ⟨by rfl, by decide, by decide, ?_, by decide, by decide⟩
  intro same
  have kind := congrArg (Option.bind · (BusinessObject.scalar? · "kind")) same
  revert kind
  decide

end HalfRewritten

end PropertyPanel.Panel

/-
This file proves which drafts a list of assignments leaves, and that the first assignment that is
refused ends the staging before the diagram is touched.
-/

import PropertyPanel.CommandLine.Session
import PropertyPanel.Proofs.DraftFlush
import PropertyPanel.Proofs.Panel.StagingOrder

namespace PropertyPanel

namespace DraftBuffer

/-- The keys of staged drafts are in the order in which they are first staged. -/
theorem keys_foldl_stage (made : List Draft) :
    (made.foldl stage .empty).drafts.map Draft.key = (made.map Draft.key).eraseDups := by
  induction made using List.reverseRecOn with
  | nil => rfl
  | append_singleton made draft ih =>
      rw [List.foldl_append, List.map_append, List.eraseDups_append, ← ih]
      change (stageInto draft (made.foldl stage .empty).drafts).map Draft.key = _
      rw [keysStageInto, ih, List.map_singleton, List.cons_removeAll]
      by_cases known : draft.key ∈ made.map Draft.key
      · simp [known, List.removeAll]
      · simp [known, List.removeAll, List.eraseDups_cons]

end DraftBuffer

namespace Panel

variable {Host : Type} [DiagramHost Host]

/-- A save without drafts does nothing. -/
theorem save_clean {panel : Panel} (clean : panel.pending = .empty) (host : Host) :
    panel.save host = (panel, host, none) := by
  obtain ⟨configuration, pending, current, subtype, rendering, ready, view, notice⟩ := panel
  cases clean
  cases ready <;> rfl

/-- The selection of a known element by a panel without drafts changes the panel alone. -/
theorem select_clean {panel : Panel} (clean : panel.pending = .empty)
    (idle : panel.rendering = false) {host : Host} {id : ElementId} {elementType : String}
    (typed : DiagramHost.elementType? host id = some elementType) :
    ∃ view, panel.select host id =
      ({ panel with
          selectedSubtype := panel.determineSubtype host id
          current := some id
          view := some view }, host, some view) := by
  have saved := save_clean clean host
  rw [select, saved]
  simp only [typed, Option.isNone_some, Bool.false_eq_true, if_false]
  unfold render
  simp only [idle, typed, Bool.false_eq_true, if_false]
  exact ⟨_, rfl⟩

end Panel

namespace CommandLine

/-- A session in which an element has been selected since a document was opened. -/
structure Session.Opened (session : Session) (configuration : Configuration)
    (document : DiagramDocument) (element : ElementId) (elementType : String) : Prop where
  configured : session.panel.configuration = configuration
  ready : session.panel.ready = true
  selected : session.panel.current = some element
  clean : session.panel.pending = .empty
  untouched : session.diagram = Diagram.ofDocument document
  typed : session.diagram.elementType? element = some elementType
  determined : session.panel.selectedSubtype =
    session.panel.determineSubtype session.diagram element

/-- The selection of an element edits nothing. -/
theorem Session.select_opened {configuration : Configuration} {document : DiagramDocument}
    {element : ElementId} {session : Session}
    (done : (Session.start configuration document).select element = .ok session) :
    ∃ elementType, session.Opened configuration document element elementType := by
  let imported : Panel := { Panel.new configuration with ready := true }
  have started : Session.start configuration document =
      ⟨imported, Diagram.ofDocument document⟩ := rfl
  rw [started, Session.select] at done
  split at done
  · cases done
  · rename_i present
    cases found : (Diagram.ofDocument document).element? element with
    | none => simp [found] at present
    | some held =>
        have typed : DiagramHost.elementType? (Diagram.ofDocument document) element =
            some held.elementType := congrArg (Option.map Element.elementType) found
        refine ⟨held.elementType, ?_⟩
        have clean : imported.pending = .empty := rfl
        obtain ⟨view, selection⟩ := Panel.select_clean clean rfl typed
        change Except.ok (Session.mk (imported.select (Diagram.ofDocument document) element).1
          (imported.select (Diagram.ofDocument document) element).2.1) = _ at done
        rw [selection] at done
        cases done
        exact ⟨rfl, rfl, rfl, rfl, rfl, typed, rfl⟩

/-- The fields that a session shows for an element of a type, by identifier. -/
def Session.fields (session : Session) (elementType : String) : List (String × FieldDescriptor) :=
  session.panel.configuration.shownFields elementType session.panel.selectedSubtype

namespace Assignment

/-- An assignment is refused if its field is not shown or is read-only, or if the kind of the field
does not accept the value. -/
inductive Refused (element : ElementId) (fields : List (String × FieldDescriptor))
    (assignment : Assignment) : CommandError → Prop where
  | hidden (missing : fields.lookup assignment.field = none) :
      Refused element fields assignment (.hiddenField assignment.field element)
  | readonly {descriptor : FieldDescriptor}
      (shown : fields.lookup assignment.field = some descriptor)
      (fixed : descriptor.readonly = true) :
      Refused element fields assignment (.readonlyField assignment.field)
  | invalid {descriptor : FieldDescriptor} {error : InputError}
      (shown : fields.lookup assignment.field = some descriptor)
      (editable : descriptor.readonly = false)
      (malformed : FieldInput.parse descriptor.kind assignment.raw = .error error) :
      Refused element fields assignment (.invalidValue assignment.field error)

/-- An assignment that is not refused drafts the value of its field. -/
inductive Drafts (element : ElementId) (fields : List (String × FieldDescriptor))
    (assignment : Assignment) : Draft → Prop where
  | intro {descriptor : FieldDescriptor} {typed : FieldInput}
      (shown : fields.lookup assignment.field = some descriptor)
      (editable : descriptor.readonly = false)
      (parsed : FieldInput.parse descriptor.kind assignment.raw = .ok typed) :
      Drafts element fields assignment ⟨element, assignment.field, descriptor, typed.value⟩

variable {element : ElementId} {fields : List (String × FieldDescriptor)} {assignment : Assignment}

theorem drafts_or_refused (element : ElementId) (fields : List (String × FieldDescriptor))
    (assignment : Assignment) :
    (∃ draft, assignment.Drafts element fields draft) ∨
      ∃ error, assignment.Refused element fields error := by
  cases shown : fields.lookup assignment.field with
  | none => exact .inr ⟨_, .hidden shown⟩
  | some descriptor =>
      cases editable : descriptor.readonly with
      | true => exact .inr ⟨_, .readonly shown editable⟩
      | false =>
          cases parsed : FieldInput.parse descriptor.kind assignment.raw with
          | ok typed => exact .inl ⟨_, .intro shown editable parsed⟩
          | error error => exact .inr ⟨_, .invalid shown editable parsed⟩

/-- No assignment is both drafted and refused. -/
theorem Drafts.not_refused {draft : Draft} (drafted : assignment.Drafts element fields draft)
    {error : CommandError} : ¬ assignment.Refused element fields error := by
  obtain ⟨shown, editable, parsed⟩ := drafted
  intro refused
  cases refused with
  | hidden missing => cases missing.symm.trans shown
  | readonly known fixed =>
      cases known.symm.trans shown
      cases fixed.symm.trans editable
  | invalid known _ malformed =>
      cases known.symm.trans shown
      cases malformed.symm.trans parsed

/-- The draft of an assignment has its field. -/
theorem Drafts.key {draft : Draft} (drafted : assignment.Drafts element fields draft) :
    draft.key = (element, assignment.field) := by
  cases drafted
  rfl

end Assignment

section List

variable (element : ElementId) (fields : List (String × FieldDescriptor))

/-- Either all assignments are drafted or there is a first one that is refused. -/
theorem Assignment.drafts_or_first_refused (assignments : List Assignment) :
    (∃ drafts, List.Forall₂ (Drafts element fields) assignments drafts) ∨
      ∃ earlier assignment later drafts error, assignments = earlier ++ assignment :: later ∧
        List.Forall₂ (Drafts element fields) earlier drafts ∧
        assignment.Refused element fields error := by
  induction assignments with
  | nil => exact .inl ⟨[], .nil⟩
  | cons first rest ih =>
      cases first.drafts_or_refused element fields with
      | inr refused =>
          obtain ⟨error, refused⟩ := refused
          exact .inr ⟨[], first, rest, [], error, rfl, .nil, refused⟩
      | inl drafted =>
          obtain ⟨draft, drafted⟩ := drafted
          cases ih with
          | inl all =>
              obtain ⟨drafts, all⟩ := all
              exact .inl ⟨draft :: drafts, .cons drafted all⟩
          | inr stops =>
              obtain ⟨earlier, assignment, later, drafts, error, split, before, refused⟩ := stops
              exact .inr ⟨first :: earlier, assignment, later, draft :: drafts, error,
                by rw [split, List.cons_append], .cons drafted before, refused⟩

/-- A draft has the value of the last assignment to its field. -/
def Assignment.DraftsLast (assignments : List Assignment) (draft : Draft) : Prop :=
  ∃ earlier assignment later, assignments = earlier ++ assignment :: later ∧
    (∀ next ∈ later, next.field ≠ assignment.field) ∧ assignment.Drafts element fields draft

variable {element} {fields}

/-- Every assignment of a drafted list has a draft. -/
theorem Assignment.drafted_of_mem {assignments : List Assignment} {drafts : List Draft}
    (drafted : List.Forall₂ (Drafts element fields) assignments drafts) {assignment : Assignment}
    (listed : assignment ∈ assignments) : ∃ draft, assignment.Drafts element fields draft := by
  induction drafted with
  | nil => cases listed
  | cons first _ ih =>
      cases List.mem_cons.mp listed with
      | inl same => exact ⟨_, same ▸ first⟩
      | inr later => exact ih later

theorem Assignment.keys_drafts {assignments : List Assignment} {drafts : List Draft}
    (drafted : List.Forall₂ (Drafts element fields) assignments drafts) :
    drafts.map Draft.key = assignments.map fun assignment => (element, assignment.field) := by
  induction drafted with
  | nil => rfl
  | cons first _ ih => rw [List.map_cons, List.map_cons, ih, first.key]

/-- A draft that assignments leave has been there before and is of another field, or it is of the
last assignment to its field. -/
theorem Assignment.mem_foldl_stage {assignments : List Assignment} {drafts : List Draft}
    (drafted : List.Forall₂ (Drafts element fields) assignments drafts) {pending : DraftBuffer}
    {draft : Draft} (left : draft ∈ (drafts.foldl DraftBuffer.stage pending).drafts) :
    (draft ∈ pending.drafts ∧ ∀ next ∈ assignments, draft.key ≠ (element, next.field)) ∨
      DraftsLast element fields assignments draft := by
  induction drafted generalizing pending with
  | nil => exact .inl ⟨left, fun next listed => absurd listed List.not_mem_nil⟩
  | @cons assignment made rest others first _ ih =>
      cases ih left with
      | inl kept =>
          obtain ⟨staged, different⟩ := kept
          cases DraftBuffer.mem_stage.mp staged with
          | inl same =>
              subst same
              refine .inr ⟨[], assignment, rest, rfl, ?_, first⟩
              intro next listed equal
              exact different next listed (first.key.trans (by rw [equal]))
          | inr before =>
              refine .inl ⟨before.1, ?_⟩
              intro next listed
              cases List.mem_cons.mp listed with
              | inl here => exact fun same => before.2 (same.trans (here ▸ first.key.symm))
              | inr later => exact different next later
      | inr last =>
          obtain ⟨earlier, final, later, split, once, drafted⟩ := last
          exact .inr ⟨assignment :: earlier, final, later, by rw [split, List.cons_append], once,
            drafted⟩

end List

namespace Session

/-- The staging of an assignment does not touch the diagram. -/
theorem diagram_stage {session staged : Session} {element : ElementId} {assignment : Assignment}
    (done : session.stage element assignment = .ok staged) : staged.diagram = session.diagram := by
  unfold stage at done
  split at done
  · cases done
  · split at done
    · cases done
    · split at done
      · cases done
      · cases done
        rfl

theorem diagram_stageAll {session staged : Session} {element : ElementId}
    {assignments : List Assignment}
    (done : (session.stageAll element assignments).2 = .ok staged) :
    staged.diagram = session.diagram := by
  induction assignments generalizing session with
  | nil =>
      cases done
      rfl
  | cons assignment rest ih =>
      rw [stageAll] at done
      split at done
      · cases done
      · rename_i next first
        exact (ih done).trans (diagram_stage first)

/-- A session with another buffer of drafts. -/
def withDrafts (session : Session) (pending : DraftBuffer) : Session :=
  { session with panel := { session.panel with pending } }

section Stage

variable {session : Session} {element : ElementId} {elementType : String}
  (selected : session.panel.current = some element)
  (typed : session.diagram.elementType? element = some elementType)

include selected typed

theorem descriptor?_fields (field : String) :
    session.panel.descriptor? session.diagram field = (session.fields elementType).lookup field :=
  Panel.descriptor?_shownFields selected typed

/-- An assignment that is accepted stages its draft and changes nothing else. -/
theorem stage_drafts {assignment : Assignment} {draft : Draft}
    (drafted : assignment.Drafts element (session.fields elementType) draft) :
    session.stage element assignment =
      .ok (session.withDrafts (session.panel.pending.stage draft)) := by
  obtain ⟨shown, editable, parsed⟩ := drafted
  rw [← descriptor?_fields selected typed] at shown
  have entered := Panel.input_staged selected shown editable
  simp only [stage, shown, editable, parsed, Bool.false_eq_true, if_false, entered]
  rfl

theorem stage_refused {assignment : Assignment} {error : CommandError}
    (refused : assignment.Refused element (session.fields elementType) error) :
    session.stage element assignment = .error error := by
  cases refused with
  | hidden missing =>
      rw [← descriptor?_fields selected typed] at missing
      simp only [stage, missing]
  | readonly shown fixed =>
      rw [← descriptor?_fields selected typed] at shown
      simp only [stage, shown, fixed, if_true]
  | invalid shown editable malformed =>
      rw [← descriptor?_fields selected typed] at shown
      simp only [stage, shown, editable, malformed, Bool.false_eq_true, if_false]

/-- The drafts of accepted assignments are staged in order, and what follows is staged then. -/
theorem stageAll_drafts {assignments : List Assignment} {drafts : List Draft}
    (drafted : List.Forall₂ (Assignment.Drafts element (session.fields elementType)) assignments
      drafts) (later : List Assignment) (pending : DraftBuffer) :
    (session.withDrafts pending).stageAll element (assignments ++ later) =
      let (accepted, outcome) := (session.withDrafts
        (drafts.foldl DraftBuffer.stage pending)).stageAll element later
      (assignments ++ accepted, outcome) := by
  induction drafted generalizing pending with
  | nil => rfl
  | @cons assignment draft earlier others first _ ih =>
      have still : (session.withDrafts pending).panel.current = some element := selected
      have kept : (session.withDrafts pending).diagram.elementType? element = some elementType :=
        typed
      have staged : (session.withDrafts pending).stage element assignment =
          .ok (session.withDrafts (pending.stage draft)) := Session.stage_drafts still kept first
      rw [List.cons_append, stageAll, staged]
      dsimp only
      rw [ih (pending.stage draft)]
      rfl

/-- Of assignments that are not all accepted those in front of the first refused one are staged. -/
theorem stageAll_refused {earlier later : List Assignment} {assignment : Assignment}
    {drafts : List Draft} {error : CommandError}
    (drafted : List.Forall₂ (Assignment.Drafts element (session.fields elementType)) earlier
      drafts)
    (refused : assignment.Refused element (session.fields elementType) error) :
    session.stageAll element (earlier ++ assignment :: later) = (earlier, .error error) := by
  let staged := session.withDrafts (drafts.foldl DraftBuffer.stage session.panel.pending)
  have still : staged.panel.current = some element := selected
  have kept : staged.diagram.elementType? element = some elementType := typed
  have stopped : staged.stage element assignment = .error error :=
    Session.stage_refused still kept refused
  have ahead : session.stageAll element (earlier ++ assignment :: later) = _ :=
    stageAll_drafts selected typed drafted (assignment :: later) session.panel.pending
  change _ = let (accepted, outcome) := staged.stageAll element (assignment :: later)
    (earlier ++ accepted, outcome) at ahead
  rw [ahead, stageAll, stopped]
  simp

end Stage

/-- A save by a ready panel applies its drafts one after the other. -/
theorem diagram_save {session : Session} (ready : session.panel.ready = true) :
    session.save.1.diagram =
      DraftBuffer.replay (Panel.applyDraft session.panel.configuration.locations)
        session.panel.pending.drafts session.diagram :=
  Panel.host_save session.diagram ready

end Session

end CommandLine

end PropertyPanel

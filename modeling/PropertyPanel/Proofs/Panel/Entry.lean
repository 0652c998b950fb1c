/-
This file proves what a field shows after a typed value has been saved.
-/

import PropertyPanel.Proofs.DraftBuffer
import PropertyPanel.Proofs.Panel.Application
import PropertyPanel.Proofs.Panel.Run
import PropertyPanel.Proofs.Panel.Shown
import PropertyPanel.Proofs.Resolution.Edit

namespace PropertyPanel.Panel

variable {Host : Type} [DiagramHost Host] {panel : Panel} {host : Host} {draft : Draft}

/-- A save that ends with a notice of success leaves no drafts. -/
theorem save_saved (succeeded : (panel.save host).2.2 = some .saved) :
    panel.ready = true ∧ (panel.save host).1.pending.drafts = [] := by
  by_cases ready : panel.ready = true
  · exact ⟨ready, ((save_eq_saved host ready).mp succeeded).2⟩
  · rw [save, if_neg ready] at succeeded
    cases succeeded

/-- A save of a single draft that succeeds has applied it. -/
theorem save_single (alone : panel.pending.drafts = [draft])
    (succeeded : (panel.save host).2.2 = some .saved) :
    (applyDraft panel.configuration.locations draft host).2 = .ok () ∧
      (panel.save host).2.1 = (applyDraft panel.configuration.locations draft host).1 := by
  obtain ⟨ready, empty⟩ := save_saved succeeded
  rw [drafts_save host ready, alone] at empty
  rw [host_save host ready, alone]
  cases outcome : (applyDraft panel.configuration.locations draft host).2 with
  | ok => exact ⟨rfl, rfl⟩
  | error error =>
      rw [DraftBuffer.failed_error [] outcome] at empty
      cases empty

/-- An idle panel without drafts shows for a field of the selected element what the host has. -/
theorem render_described (idle : panel.rendering = false) (empty : panel.pending.drafts = [])
    {id : ElementId} (selected : panel.current = some id) {elementType : String}
    (typed : DiagramHost.elementType? host id = some elementType) {field : String}
    {descriptor : FieldDescriptor} (shown : panel.descriptor? host field = some descriptor)
    {object : BusinessObject} (present : DiagramHost.businessObject? host id = some object) :
    ∃ view entry, (panel.render host).2 = some view ∧ view.field? field = some entry ∧
      entry.value = FieldValue.ofScalar descriptor.kind
        (panel.configuration.locations.read object field descriptor.location) := by
  have rendered := render_selected idle selected typed
  rw [descriptor?_shownFields selected typed] at shown
  have found := panel.configuration.field?_view elementType panel.selectedSubtype id
    (panel.currentValue host id) field
  rw [shown, Option.map_some] at found
  refine ⟨_, _, rendered, found, ?_⟩
  have clean : panel.pending.get? id field = none := by
    rw [DraftBuffer.get?, empty]
    rfl
  simp only [FieldView.build, currentValue, clean, present, Option.bind_some]

/-- A read joins a written value, if the location selects the node that holds it, with other
leaves. -/
def readBack (field : String) (location : Location) (value : Option Scalar)
    (others : List Scalar) : Option Scalar :=
  Location.joinLeaves ((Location.foundLeaf field value location.steps).toList ++ others)

/-- A typed value that is found again and that no other leaves are joined to is shown as it was
typed. -/
theorem ofScalar_readBack {kind : InputKind} {raw : String} {typed : FieldInput}
    (parsed : FieldInput.parse kind raw = .ok typed) {field : String} {location : Location}
    (again : typed.value = none ∨ Location.selects field typed.value location.steps = true) :
    FieldValue.ofScalar kind (readBack field location typed.value []) =
      FieldValue.ofScalar kind typed.value := by
  rw [readBack, List.append_nil, Location.joinLeaves_toList]
  cases again with
  | inl cleared => rw [cleared, Location.foundLeaf_none]
  | inr selecting =>
      rw [Location.foundLeaf, if_pos selecting]
      cases Location.writtenLeaf_cases typed.value location.steps with
      | inl same => rw [same]
      | inr display => rw [display, FieldInput.ofScalar_display parsed]

/-- An input of an editable field is staged. -/
theorem input_staged {id : ElementId} (selected : panel.current = some id) {field : String}
    {descriptor : FieldDescriptor} (shown : panel.descriptor? host field = some descriptor)
    (editable : descriptor.readonly = false) (typed : FieldInput) :
    panel.input host field typed =
      ({ panel with pending := panel.pending.stage ⟨id, field, descriptor, typed.value⟩ },
        true) := by
  simp [input, selected, shown, editable]

/-- A typed value that is saved alone and with success is shown as a read finds it then. -/
theorem save_shows_input (panel : Panel) (diagram : Diagram)
    (idle : panel.rendering = false) {id : ElementId} (selected : panel.current = some id)
    {field : String} {descriptor : FieldDescriptor}
    (shown : panel.descriptor? diagram field = some descriptor)
    (editable : descriptor.readonly = false) {location : Location}
    (known : panel.configuration.locations.find? descriptor.location = some location)
    (compiled : location.Compiled) {typed : FieldInput}
    (alone : (panel.input diagram field typed).1.pending.drafts.length = 1)
    (succeeded : ((panel.input diagram field typed).1.save diagram).2.2 = some .saved) :
    let (saved, left, _) := (panel.input diagram field typed).1.save diagram
    ∃ object view entry others, DiagramHost.businessObject? diagram id = some object ∧
      (saved.render left).2 = some view ∧ view.field? field = some entry ∧
      entry.value =
        FieldValue.ofScalar descriptor.kind (readBack field location typed.value others) ∧
      others.Sublist (Location.othersBelow field location.steps object) ∧
      (typed.value.isSome = true ∨ Location.selects field typed.value location.steps = true →
        others = Location.othersBelow field location.steps object) := by
  let draft : Draft := ⟨id, field, descriptor, typed.value⟩
  let staged : Panel := { panel with pending := panel.pending.stage draft }
  have staging : panel.input diagram field typed = (staged, true) :=
    input_staged selected shown editable typed
  rw [staging] at alone succeeded ⊢
  have single : staged.pending.drafts = [draft] := by
    obtain ⟨only, listed⟩ := List.length_eq_one_iff.mp alone
    have inside : draft ∈ staged.pending.drafts := DraftBuffer.mem_stage.mpr (.inl rfl)
    rw [listed, List.mem_singleton] at inside
    rw [listed, inside]
  obtain ⟨applied, left⟩ := save_single single succeeded
  obtain ⟨object, present, done, held⟩ := applyDraft_applied applied
  rw [← left] at held
  -- The save keeps what the panel needs to describe the field.
  have types : DiagramHost.elementType? (staged.save diagram).2.1 id =
      DiagramHost.elementType? diagram id := by
    rw [left]
    exact elementType?_applyDraft id
  have typable := LawfulHost.elementType?_isSome diagram id
  rw [present, Option.isSome_some, Option.isSome_iff_exists] at typable
  obtain ⟨elementType, typable⟩ := typable
  rw [descriptor?_shownFields selected typable] at shown
  have still : (staged.save diagram).1.descriptor? (staged.save diagram).2.1 field =
      some descriptor := by
    rw [descriptor?_shownFields (by simpa using selected) (types.trans typable)]
    simpa using shown
  have resting : (staged.save diagram).1.rendering = false :=
    (congrArg Prod.snd (staged.fixed_save diagram)).trans idle
  obtain ⟨view, entry, rendered, found, value⟩ := render_described resting
    (save_saved succeeded).2 (by simpa using selected) (types.trans typable) still held
  obtain ⟨others, fewer, same, again⟩ := LocationTable.read_edit draft known compiled.1 compiled.2
    (fun _ filled => FieldInput.value_filled filled) done
  refine ⟨object, view, entry, others, present, rendered, found, ?_, fewer, same⟩
  rw [value, configuration_save]
  exact congrArg _ again

/-- In every run over a configuration that is loaded without a warning, a typed value that is saved
alone and with success is shown with the leaves that its write has passed by, and exactly as it was
typed if there are none, provided that it is cleared or that the location selects what holds it. -/
theorem typed_value_shown (declaration : ConfigurationDeclaration)
    (clean : (Configuration.load declaration).warnings = []) (start : Diagram)
    (operations : List (Operation Diagram)) (panel : Panel) (diagram : Diagram)
    (reached : Operation.run operations (new (Configuration.load declaration), start) =
      (panel, diagram))
    (id : ElementId) (selected : panel.current = some id) (field : String)
    (descriptor : FieldDescriptor) (shown : panel.descriptor? diagram field = some descriptor)
    (editable : descriptor.readonly = false) (raw : String) (typed : FieldInput)
    (parsed : FieldInput.parse descriptor.kind raw = .ok typed)
    (alone : (panel.input diagram field typed).1.pending.drafts.length = 1)
    (succeeded : ((panel.input diagram field typed).1.save diagram).2.2 = some .saved) :
    let (saved, left, _) := (panel.input diagram field typed).1.save diagram
    ∃ location object view entry others,
      panel.configuration.locations.find? descriptor.location = some location ∧
      diagram.businessObject? id = some object ∧
      (saved.render left).2 = some view ∧ view.field? field = some entry ∧
      entry.value =
        FieldValue.ofScalar descriptor.kind (readBack field location typed.value others) ∧
      others.Sublist (Location.othersBelow field location.steps object) ∧
      (typed.value.isSome = true ∨ Location.selects field typed.value location.steps = true →
        others = Location.othersBelow field location.steps object) ∧
      (Location.othersBelow field location.steps object = [] →
        typed.value = none ∨ Location.selects field typed.value location.steps = true →
          entry.value = FieldValue.ofScalar descriptor.kind typed.value) := by
  have fixed := Operation.fixed_run operations (new (Configuration.load declaration), start)
  rw [reached] at fixed
  have loaded : panel.configuration = Configuration.load declaration := congrArg Prod.fst fixed
  have idle : panel.rendering = false := congrArg Prod.snd fixed
  have used := location_descriptor? shown
  rw [loaded] at used
  obtain ⟨location, known, compiled⟩ := Configuration.find?_usedLocations clean used
  rw [← loaded] at known
  obtain ⟨object, view, entry, others, present, rendered, found, value, fewer, same⟩ :=
    save_shows_input panel diagram idle selected shown editable known compiled alone succeeded
  refine ⟨location, object, view, entry, others, known, present, rendered, found, value, fewer,
    same, fun single again => ?_⟩
  have none : others = [] := by
    rw [single] at fewer
    exact List.sublist_nil.mp fewer
  rw [value, none]
  exact ofScalar_readBack parsed again

section Notes

/-- A configuration with one field whose location is declared by its steps. -/
def noteDeclaration (steps : List StepDeclaration) : ConfigurationDeclaration :=
  ⟨.ofList [("note", steps)],
    .ofList [("common", .ofList [("note", .field (.atLocation "note"))])]⟩

/-- A panel that shows the note of a task. -/
def noteState (steps : List StepDeclaration) (task : BusinessObject) : Panel × Diagram :=
  Operation.run [.event .importDone, .select "task"]
    (new (Configuration.load (noteDeclaration steps)),
      (Diagram.new .permissive).insert ⟨"task", "Task", task⟩)

def noteStep (conditions : List (String × Json)) : StepDeclaration :=
  ⟨"notes", some "Note", true, .ofList conditions⟩

def textStep : StepDeclaration := ⟨"text", none, false, .empty⟩

/-- A note by somebody else comes after the own one. -/
def notedTask : BusinessObject :=
  (BusinessObject.empty "Task").setProperty "notes" (.sequence
    [((BusinessObject.empty "Note").setScalar "by" (some (.text "me"))).setBody (some "a"),
      ((BusinessObject.empty "Note").setScalar "by" (some (.text "you"))).setBody (some "b")])

/-- The note that a panel shows after a text is typed and saved, with the notice of the save. -/
def noteAfter (state : Panel × Diagram) (raw : String) : Option Notice × Option FieldValue :=
  let (saved, left, notice) := (state.1.input state.2 "note" (.text raw)).1.save state.2
  (notice, ((saved.render left).2.bind (PanelView.field? · "note")).map FieldView.value)

/-- A text that is typed over the own note is shown although there is another note. -/
theorem typed_value_shown_own :
    let steps := [noteStep [("by", .text "me")]]
    let (panel, diagram) := noteState steps notedTask
    let (saved, left, notice) := (panel.input diagram "note" (.text "c")).1.save diagram
    (Configuration.load (noteDeclaration steps)).warnings = [] ∧
      panel.current = some "task" ∧
      panel.descriptor? diagram "note" = some (.atLocation "note") ∧
      (panel.input diagram "note" (.text "c")).1.pending.drafts.length = 1 ∧
      notice = some .saved ∧
      ∃ view entry, (saved.render left).2 = some view ∧ view.field? "note" = some entry ∧
        entry.value = .text "c" := by
  refine ⟨by decide, by decide, by decide, by decide, by decide, ?_⟩
  obtain ⟨location, object, view, entry, _, known, present, rendered, found, _, _, _, value⟩ :=
    typed_value_shown (noteDeclaration [noteStep [("by", .text "me")]]) (by decide)
      ((Diagram.new .permissive).insert ⟨"task", "Task", notedTask⟩)
      [.event .importDone, .select "task"] _ _ rfl "task" (by decide) "note"
      (.atLocation "note") (by decide) rfl "c" (.text "c") rfl (by decide) (by decide)
  cases known
  cases present
  exact ⟨view, entry, rendered, found, value (by decide) (.inr (by decide))⟩

/-- A typed text is not shown as it was typed if the other note is read as well, if no note can
have the empty author, or if the text takes the place of the word by which the note is selected. -/
theorem typed_value_not_shown :
    FieldInput.parse .text "c" = .ok (.text "c") ∧
      ∀ steps ∈ [[noteStep []], [noteStep [("by", .text "")], textStep],
        [noteStep [("text", .text "x")], textStep]],
      let (panel, diagram) := noteState steps notedTask
      (Configuration.load (noteDeclaration steps)).warnings = [] ∧
        panel.current = some "task" ∧
        panel.descriptor? diagram "note" = some (.atLocation "note") ∧
        (panel.input diagram "note" (.text "c")).1.pending.drafts.length = 1 ∧
        (noteAfter (panel, diagram) "c").1 = some .saved ∧
        (noteAfter (panel, diagram) "c").2 ≠ some (.text "c") :=
  ⟨rfl, by decide⟩

end Notes

end PropertyPanel.Panel

/-
This file proves which drafts the entries of a view show and which of its entries take an input.
-/

import PropertyPanel.Diagram.Memory
import PropertyPanel.Proofs.Panel.Shown
import PropertyPanel.Proofs.Panel.Staging

namespace PropertyPanel

variable {Host : Type} [DiagramHost Host]

namespace Panel

variable {panel : Panel} {host : Host} {id : ElementId} {elementType : String}

/-- A panel shows nothing but the selected element. -/
theorem render_view {view : PanelView} (rendered : (panel.render host).2 = some view) :
    ∃ id elementType, panel.current = some id ∧
      DiagramHost.elementType? host id = some elementType ∧
      view = panel.configuration.view id elementType panel.selectedSubtype
        (panel.currentValue host id) := by
  unfold render at rendered
  split at rendered
  · cases rendered
  · split at rendered
    · cases rendered
    · rename_i id selected
      split at rendered
      · cases rendered
      · rename_i elementType typed
        cases rendered
        exact ⟨id, elementType, selected, typed, rfl⟩

/-- An entry is dirty exactly if there is a draft of its field, and then it shows the draft. -/
structure ShowsDraft (panel : Panel) (id : ElementId) (declared : String × FieldDescriptor)
    (entry : FieldView) : Prop where
  identifier : entry.id = declared.1
  dirty : entry.dirty = (panel.pending.get? id declared.1).isSome
  value : ∀ draft, panel.pending.get? id declared.1 = some draft →
    entry.value = FieldValue.ofScalar declared.2.kind draft.value

theorem showsDraft_build (declared : String × FieldDescriptor) :
    panel.ShowsDraft id declared
      (FieldView.build declared.1 declared.2
        (panel.currentValue host id declared.1 declared.2)) := by
  cases drafted : panel.pending.get? id declared.1 with
  | none =>
      exact ⟨rfl, by simp [FieldView.build, currentValue, drafted],
        fun draft held => by simp [drafted] at held⟩
  | some draft =>
      refine ⟨rfl, by simp [FieldView.build, currentValue, drafted], fun other held => ?_⟩
      rw [drafted] at held
      cases held
      simp [FieldView.build, currentValue, drafted]

end Panel

/-- The field maps from which an element of the type can show fields. -/
def Configuration.fieldsOf (configuration : Configuration) (elementType : String) :
    List FieldMap :=
  configuration.common ::
    ((configuration.element? elementType).map ElementConfiguration.fieldMaps).getD []

namespace Panel

/-- An entry has the location of the drafts that were typed for its field in an earlier state: it is
common to all elements, or the type that the element had gives the identifier no other location, or
neither the type nor the subtype has changed since then and the entry is not hidden by another. -/
inductive Settles (earlier now : Panel × Host) (id : ElementId)
    (declared : String × FieldDescriptor) : Prop where
  | common (listed : declared ∈ now.1.configuration.common.entries)
  | once {elementType : String}
      (typed : DiagramHost.elementType? earlier.2 id = some elementType)
      (alone : ∀ fields ∈ now.1.configuration.fieldsOf elementType, ∀ other,
        fields.find? declared.1 = some other → other.location = declared.2.location)
  | unchanged {elementType : String}
      (before : DiagramHost.elementType? earlier.2 id = some elementType)
      (after : DiagramHost.elementType? now.2 id = some elementType)
      (same : earlier.1.selectedSubtype = now.1.selectedSubtype)
      (described : now.1.descriptor? now.2 declared.1 = some declared.2)

/-- A draft is written where a settled entry of its field is declared. -/
theorem Stages.location_settles {earlier now : Panel × Host} {typed : FieldInput} {draft : Draft}
    (stages : Stages earlier typed draft) {declared : String × FieldDescriptor}
    (field : draft.field = declared.1) (selected : now.1.current = some draft.element)
    (configured : earlier.1.configuration = now.1.configuration)
    (settles : Settles earlier now draft.element declared) :
    draft.location = declared.2.location := by
  have described := stages.described
  rw [field] at described
  cases settles with
  | common listed =>
      have known : earlier.1.configuration.common.find? declared.1 = some declared.2 := by
        rw [configured]
        exact Dictionary.find?_eq_some.mpr listed
      simp only [descriptor?, stages.selected, known, Option.bind_eq_bind, Option.bind_some,
        Option.pure_def, Option.some_inj] at described
      rw [Draft.location, ← described]
  | once typed alone =>
      rw [← configured] at alone
      cases descriptor?_cases described with
      | inl common => exact alone _ List.mem_cons_self _ common
      | inr other =>
          obtain ⟨id, elementType, element, current, known, element?, fields, listed, found⟩ :=
            other
          cases stages.selected.symm.trans current
          cases typed.symm.trans known
          refine alone fields (List.mem_cons_of_mem _ ?_) _ found
          simpa [element?] using listed
  | unchanged before after same now =>
      rw [descriptor?_shownFields stages.selected before, configured, same,
        ← descriptor?_shownFields selected after, now] at described
      rw [Draft.location, ← Option.some_inj.mp described]

end Panel

/-- In every reachable state an entry of a view is dirty exactly if there is a draft of its field.
The draft has been typed in an earlier state in which its descriptor described the field, and it is
written where the entry is declared if the entry is settled since then. -/
theorem Operation.dirty_entries (configuration : Configuration) (start : Host)
    (operations : List (Operation Host)) (panel : Panel) (host : Host)
    (reached : run operations (.new configuration, start) = (panel, host)) (view : PanelView)
    (rendered : (panel.render host).2 = some view) :
    ∃ id elementType, panel.current = some id ∧
      DiagramHost.elementType? host id = some elementType ∧
      List.Forall₂ (fun declared entry => panel.ShowsDraft id declared entry ∧
          ∀ draft, panel.pending.get? id declared.1 = some draft →
            ∃ before after typed, operations = before ++ .input declared.1 typed :: after ∧
              let earlier := run before (.new configuration, start)
              Panel.Stages earlier typed draft ∧
                (Panel.Settles earlier (panel, host) id declared →
                  draft.location = declared.2.location))
        (configuration.shownFields elementType panel.selectedSubtype) view.fields := by
  have fixed (operations : List (Operation Host)) :
      (run operations (.new configuration, start)).1.configuration = configuration :=
    configuration_run operations _
  have loaded : panel.configuration = configuration := by simpa [reached] using fixed operations
  obtain ⟨id, elementType, selected, typed, built⟩ := Panel.render_view rendered
  refine ⟨id, elementType, selected, typed, ?_⟩
  rw [built, loaded, Configuration.fields_view, List.forall₂_map_right_iff, List.forall₂_same]
  refine fun declared _ => ⟨Panel.showsDraft_build declared, fun draft held => ?_⟩
  obtain ⟨key, waiting⟩ := DraftBuffer.get?_eq_some.mp held
  obtain ⟨element, field⟩ : draft.element = id ∧ draft.field = declared.1 := Prod.mk.inj key
  subst element
  obtain ⟨before, after, typed, parts, stages⟩ :=
    (pending_run operations _ (by rwa [reached])).resolve_left List.not_mem_nil
  exact ⟨before, after, typed, by rw [parts, field], stages, fun settles =>
    stages.location_settles field selected ((fixed before).trans loaded.symm) settles⟩

section Elsewhere

/-- A value of the element itself, and one in a node of its own. -/
def memoLocations : LocationTable :=
  .ofList [("own", ⟨"own", [.leaf .fieldId]⟩),
    ("memo", ⟨"memo", [.child (.literal "memo") "Memo" .none false]⟩)]

def memoFields (location : String) : FieldMap := .ofList [("memo", .atLocation location)]

/-- The common memo of a task hides the one that only tasks have. -/
def hidingConfiguration : Configuration :=
  ⟨memoLocations, memoFields "own", .ofList [("Task", ⟨some (memoFields "memo"), []⟩)], []⟩

/-- The two kinds of tasks have their memos at different locations. -/
def switchingConfiguration : Configuration :=
  let kind (name location : String) : ElementSubtype :=
    ⟨name, [⟨"kind", "own", some (.text name)⟩], memoFields location⟩
  ⟨memoLocations, .empty, .ofList [("Task", ⟨none, [kind "plain" "memo", kind "rich" "own"]⟩)], []⟩

/-- A plain task in a diagram that knows no memo nodes. -/
def memoDiagram : Diagram :=
  (Diagram.new (.ofList ["Task"])).insert
    ⟨"task", "Task", (BusinessObject.empty "Task").setScalar "kind" (some (.text "plain"))⟩

/-- A memo is typed for the task before other operations. -/
def memoRun (configuration : Configuration) (operations : List (Operation Diagram)) :
    Panel × Diagram :=
  Operation.run ([.event .importDone, .select "task", .input "memo" (.text "m")] ++ operations)
    (.new configuration, memoDiagram)

/-- The entries of the view, each with the location that it is declared with. -/
def markedEntries (state : Panel × Diagram) : List (String × Bool × FieldValue) :=
  let fields := state.1.configuration.shownFields "Task" state.1.selectedSubtype
  let entries := ((state.1.render state.2).2.map PanelView.fields).getD []
  (fields.zip entries).map fun (declared, entry) =>
    (declared.2.location, entry.dirty, entry.value)

/-- The common entry of a memo shows the typed one, which will be written where it is declared. -/
theorem dirty_entries_common :
    let (panel, diagram) := memoRun hidingConfiguration []
    ∃ view entry draft, (panel.render diagram).2 = some view ∧ entry ∈ view.fields ∧
      panel.pending.get? "task" "memo" = some draft ∧ draft.location = "own" ∧
      entry.dirty = true ∧ entry.value = .text "m" := by
  obtain ⟨id, elementType, selected, typed, shown⟩ :=
    Operation.dirty_entries hidingConfiguration _ _ (memoRun hidingConfiguration []).1
      (memoRun hidingConfiguration []).2 rfl _ rfl
  cases selected
  cases typed
  have fields : (hidingConfiguration.shownFields "Task" none) =
      [("memo", .atLocation "own"), ("memo", .atLocation "memo")] := rfl
  change List.Forall₂ _ (hidingConfiguration.shownFields "Task" none) _ at shown
  rw [fields, List.forall₂_cons_left_iff] at shown
  obtain ⟨entry, rest, ⟨shows, settled⟩, _, entries⟩ := shown
  obtain ⟨_, _, _, _, _, written⟩ := settled _ rfl
  have listed : entry ∈ entry :: rest := List.mem_cons_self
  rw [← entries] at listed
  exact ⟨_, entry, _, rfl, listed, rfl, written (.common (by decide)), shows.dirty,
    shows.value _ rfl⟩

/-- A typed memo is shown by the entry that it hides, and a memo that could not be saved is shown
by the entry of another subtype, although a save would store neither of them there. -/
theorem draft_shown_elsewhere :
    (memoRun hidingConfiguration []).1.pending.drafts.map Draft.location = ["own"] ∧
      markedEntries (memoRun hidingConfiguration []) =
        [("own", true, .text "m"), ("memo", true, .text "m")] ∧
      (memoRun switchingConfiguration [.switchSubtype "rich"]).1.pending.drafts.map
        Draft.location = ["memo"] ∧
      markedEntries (memoRun switchingConfiguration [.switchSubtype "rich"]) =
        [("own", true, .text "m")] := by
  decide

end Elsewhere

namespace Panel

variable {panel : Panel} {host : Host} {id : ElementId} {field : String}

/-- The entry of a field has the parts of its descriptor, and it shows the draft of the field or
else the value that is read where the descriptor says. -/
structure Describes (panel : Panel) (host : Host) (id : ElementId) (field : String)
    (descriptor : FieldDescriptor) (entry : FieldView) : Prop where
  kind : entry.kind = descriptor.kind
  readonly : entry.readonly = descriptor.readonly
  options : entry.options = descriptor.values
  label : entry.label = Label.ofField field descriptor
  drafted : ∀ draft, panel.pending.get? id field = some draft →
    entry.value = FieldValue.ofScalar descriptor.kind draft.value
  stored : panel.pending.get? id field = none →
    entry.value = FieldValue.ofScalar descriptor.kind
      ((DiagramHost.businessObject? host id).bind fun object =>
        panel.configuration.locations.read object field descriptor.location)

theorem describes_build (descriptor : FieldDescriptor) :
    panel.Describes host id field descriptor
      (FieldView.build field descriptor (panel.currentValue host id field descriptor)) := by
  refine ⟨rfl, rfl, rfl, rfl, fun draft held => ?_, fun missing => ?_⟩
  · simp [FieldView.build, currentValue, held]
  · simp [FieldView.build, currentValue, missing]

/-- An input is taken exactly if its field is described as one that can be edited. -/
theorem input_taken (selected : panel.current = some id) (typed : FieldInput) :
    (panel.input host field typed).2 = true ↔
      ∃ descriptor, panel.descriptor? host field = some descriptor ∧
        descriptor.readonly = false := by
  cases shown : panel.descriptor? host field with
  | none => simp [input, selected, shown]
  | some descriptor =>
      cases editable : descriptor.readonly <;> simp [input, selected, shown, editable]

end Panel

/-- Whenever the selected element exists, the fields that can be found in the view are those that
are described, each with the parts of its descriptor and its value, and an input is taken exactly if
the entry of its field can be edited. -/
theorem Operation.view_describes (start : Panel × Host) (idle : start.1.rendering = false)
    (operations : List (Operation Host)) (panel : Panel) (host : Host)
    (reached : run operations start = (panel, host)) (id : ElementId)
    (selected : panel.current = some id)
    (known : (DiagramHost.elementType? host id).isSome = true) :
    ∃ view, (panel.render host).2 = some view ∧ ∀ field,
      ((view.field? field).isSome ↔ (panel.descriptor? host field).isSome) ∧
      (∀ descriptor entry, panel.descriptor? host field = some descriptor →
        view.field? field = some entry → panel.Describes host id field descriptor entry) ∧
      ∀ typed, (panel.input host field typed).2 = true ↔
        ∃ entry, view.field? field = some entry ∧ entry.readonly = false := by
  have fixed := fixed_run operations start
  rw [reached] at fixed
  have resting : panel.rendering = false := (congrArg Prod.snd fixed).trans idle
  obtain ⟨elementType, typed⟩ := Option.isSome_iff_exists.mp known
  refine ⟨_, Panel.render_selected resting selected typed, fun field => ?_⟩
  have found := panel.configuration.field?_view elementType panel.selectedSubtype id
    (panel.currentValue host id) field
  rw [← Panel.descriptor?_shownFields selected typed] at found
  simp only [found, Panel.input_taken selected, Option.isSome_map, Option.map_eq_some_iff]
  refine ⟨trivial, ?_, fun input => ?_⟩
  · rintro descriptor entry described ⟨same, shown, built⟩
    cases described.symm.trans shown
    exact built ▸ Panel.describes_build descriptor
  · constructor
    · rintro ⟨descriptor, described, editable⟩
      exact ⟨_, ⟨descriptor, described, rfl⟩, editable⟩
    · rintro ⟨_, ⟨descriptor, described, rfl⟩, editable⟩
      exact ⟨descriptor, described, editable⟩

/-- The memo that can be found is the common one, also where the view shows another one. -/
theorem view_describes_hiding :
    let (panel, diagram) := memoRun hidingConfiguration []
    ∃ view, (panel.render diagram).2 = some view ∧
      (panel.descriptor? diagram "memo").map FieldDescriptor.location = some "own" ∧
      (∃ entry, view.field? "memo" = some entry ∧ entry.value = .text "m") ∧
      (panel.input diagram "memo" (.text "n")).2 = true ∧ view.field? "kind" = none := by
  obtain ⟨view, rendered, described⟩ :=
    Operation.view_describes (.new hidingConfiguration, memoDiagram) rfl
      [.event .importDone, .select "task", .input "memo" (.text "m")]
      (memoRun hidingConfiguration []).1 (memoRun hidingConfiguration []).2 rfl "task" rfl rfl
  obtain ⟨entry, found⟩ := Option.isSome_iff_exists.mp ((described "memo").1.mpr rfl)
  have shows := (described "memo").2.1 (.atLocation "own") entry rfl found
  refine ⟨view, rendered, rfl, ⟨entry, found, shows.drafted _ rfl⟩,
    ((described "memo").2.2 _).mpr ⟨entry, found, shows.readonly⟩, ?_⟩
  have missing := (described "kind").1.not.mpr (by decide)
  simpa using missing

end PropertyPanel

/-
This file proves that a panel looks locations up only under the names that its configuration uses.
-/

import PropertyPanel.Diagram.Memory
import PropertyPanel.Proofs.Configuration.Warnings
import PropertyPanel.Proofs.Panel.Shown
import PropertyPanel.Proofs.Panel.Staging
import PropertyPanel.Proofs.Resolution.Agreement

namespace PropertyPanel

namespace Configuration

variable {configuration : Configuration} {elementType : String} {selected : Option String}

/-- The fields that a view shows are used. -/
theorem uses_shownFields {entry : String × FieldDescriptor}
    (shown : entry ∈ configuration.shownFields elementType selected) :
    configuration.Uses entry.2.location := by
  rw [shownFields_elementFields, List.mem_append] at shown
  cases shown with
  | inl common => exact .common (Dictionary.find?_eq_some.mpr common)
  | inr special =>
      unfold elementFields at special
      split at special
      · rename_i element configured
        split at special
        · rename_i kind chosen
          obtain ⟨_, _, found⟩ := Option.bind_eq_some_iff.mp chosen
          exact .subtype configured (List.mem_of_find?_eq_some found)
            (Dictionary.find?_eq_some.mpr special)
        · cases generic : element.fields with
          | none => simp [generic] at special
          | some fields =>
              rw [generic] at special
              exact .generic configured generic (Dictionary.find?_eq_some.mpr special)
      · cases special

def Knows (configuration : Configuration) (name : String) : Prop :=
  ∃ location, configuration.locations.find? name = some location

theorem not_knows {name : String} :
    ¬ configuration.Knows name ↔ configuration.locations.find? name = none := by
  simp [Knows, Option.eq_none_iff_forall_ne_some]

theorem Uses.knows {name : String} (used : configuration.Uses name)
    (clean : configuration.unknownLocations.names = []) : configuration.Knows name :=
  find?_unknownLocations clean (mem_usedLocations.mpr used)

/-- The other table knows the same as that of the configuration under every name in use. -/
def Agrees (configuration : Configuration) (other : LocationTable) : Prop :=
  ∀ name, configuration.Uses name → configuration.locations.AgreesAt other name

/-- A table with all locations of a configuration agrees with it if it knows those in use. -/
theorem agrees_of_more {other : LocationTable}
    (known : ∀ name, configuration.Uses name → configuration.Knows name)
    (more : ∀ name location, configuration.locations.find? name = some location →
      other.find? name = some location) : configuration.Agrees other := by
  intro name used
  obtain ⟨location, found⟩ := known name used
  exact (more name location found).trans found.symm

theorem Agrees.criteria {other : LocationTable} (agrees : configuration.Agrees other)
    {element : ElementConfiguration}
    (configured : configuration.element? elementType = some element) :
    ∀ kind ∈ element.subtypes, ∀ criterion ∈ kind.criteria,
      configuration.locations.AgreesAt other criterion.location :=
  fun _ offered _ listed => agrees _ (.criterion configured offered listed)

end Configuration

variable {Host : Type} [DiagramHost Host]

namespace Panel

/-- The drafts have locations that the configuration uses. -/
def Drafted (panel : Panel) : Prop :=
  ∀ draft ∈ panel.pending.drafts, panel.configuration.Uses draft.location

/-- The panel looks its locations up in another table. -/
def relocate (panel : Panel) (other : LocationTable) : Panel :=
  { panel with configuration := { panel.configuration with locations := other } }

section Relocate

variable (panel : Panel) (other : LocationTable)

@[simp] theorem locations_relocate : (panel.relocate other).configuration.locations = other := rfl

@[simp] theorem element?_relocate (elementType : String) :
    (panel.relocate other).configuration.element? elementType =
      panel.configuration.element? elementType := rfl

@[simp] theorem current_relocate : (panel.relocate other).current = panel.current := rfl

@[simp] theorem ready_relocate : (panel.relocate other).ready = panel.ready := rfl

end Relocate

variable {panel : Panel} {host : Host} {other : LocationTable}

theorem applyDraft_agrees {table : LocationTable} {draft : Draft}
    (agrees : table.AgreesAt other draft.location) (host : Host) :
    applyDraft other draft host = applyDraft table draft host := by
  simp only [applyDraft, LocationTable.edit_agrees _ agrees, LocationTable.read_agrees agrees]

theorem save_relocate (agrees : panel.configuration.Agrees other) (drafted : panel.Drafted) :
    (panel.relocate other).save host =
      ((panel.save host).1.relocate other, (panel.save host).2) := by
  have flush : panel.pending.flush (applyDraft other) host =
      panel.pending.flush (applyDraft panel.configuration.locations) host :=
    DraftBuffer.flush_congr (fun draft waiting host =>
      applyDraft_agrees (agrees _ (drafted draft waiting)) host) host
  cases ready : panel.ready with
  | false => simp [save, relocate, ready]
  | true => simp [save, relocate, ready, flush]

theorem input_relocate (field : String) (typed : FieldInput) :
    (panel.relocate other).input host field typed =
      ((panel.input host field typed).1.relocate other, (panel.input host field typed).2) := by
  have described : (panel.relocate other).descriptor? host field = panel.descriptor? host field :=
    rfl
  unfold input
  simp only [current_relocate, described]
  split
  · split <;> rfl
  · rfl

/-- An import shows the selected element again with the subtype that fits it then. -/
theorem onImport_known {id : ElementId} (selected : panel.current = some id)
    (known : (DiagramHost.elementType? host id).isSome) :
    panel.onImport host =
      ({ { panel with ready := true }.discardVanished host with
          selectedSubtype := panel.determineSubtype host id }.render host).1 := by
  simp only [onImport, discardVanished, selected, known, if_true]
  rfl

section Used

variable (agrees : panel.configuration.Agrees other)

include agrees

theorem determineSubtype_relocate (id : ElementId) :
    (panel.relocate other).determineSubtype host id = panel.determineSubtype host id := by
  unfold determineSubtype
  refine Option.bind_congr fun elementType _ => Option.bind_congr fun element configured => ?_
  simp only [relocate, LocationTable.determine_agrees (agrees.criteria configured)]

theorem render_relocate :
    (panel.relocate other).render host =
      ((panel.render host).1.relocate other, (panel.render host).2) := by
  -- The outline of a view has no location, so the table decides about its values only.
  have view (id : ElementId) (elementType : String) :
      (panel.relocate other).configuration.view id elementType panel.selectedSubtype
          ((panel.relocate other).currentValue host id) =
        panel.configuration.view id elementType panel.selectedSubtype
          (panel.currentValue host id) := by
    refine panel.configuration.view_congr elementType panel.selectedSubtype id fun entry shown => ?_
    have read (node : BusinessObject) :=
      LocationTable.read_agrees (agrees _ (Configuration.uses_shownFields shown)) node entry.1
    simp only [currentValue, relocate, read]
  cases busy : panel.rendering with
  | true => simp [render, relocate, busy]
  | false =>
      cases selected : panel.current with
      | none => simp [render, relocate, busy, selected]
      | some id =>
          cases typed : DiagramHost.elementType? host id with
          | none => simp [render, relocate, resetSelection, busy, selected, typed]
          | some elementType =>
              simpa [render, relocate, busy, selected, typed] using view id elementType

theorem rewriteSubtype_relocate (id : ElementId) (name : String) :
    (panel.relocate other).rewriteSubtype host id name = panel.rewriteSubtype host id name := by
  unfold rewriteSubtype
  cases DiagramHost.elementType? host id with
  | none => rfl
  | some elementType =>
      simp only [element?_relocate, locations_relocate]
      cases configured : panel.configuration.element? elementType with
      | none => rfl
      | some element =>
          cases DiagramHost.businessObject? host id with
          | none => rfl
          | some before => simp only [LocationTable.switchTo_agrees _ (agrees.criteria configured)]

theorem onImport_relocate :
    (panel.relocate other).onImport host = (panel.onImport host).relocate other := by
  cases selected : panel.current with
  | none => simp [onImport, discardVanished, vanished, relocate, selected]
  | some id =>
      cases typed : DiagramHost.elementType? host id with
      | none =>
          simp [onImport, discardVanished, vanished, relocate, resetSelection, selected, typed]
      | some elementType =>
          have known := Option.isSome_of_eq_some typed
          have rendered (chosen : Option String) :
              ({ { panel with ready := true }.discardVanished host with
                  selectedSubtype := chosen }.relocate other).render host = _ :=
            render_relocate agrees
          rw [onImport_known ((panel.current_relocate other).trans selected) known,
            onImport_known selected known, determineSubtype_relocate agrees]
          exact congrArg Prod.fst (rendered _)

end Used

section Waiting

variable (agrees : panel.configuration.Agrees other) (drafted : panel.Drafted)

include agrees drafted

theorem select_relocate (id : ElementId) :
    (panel.relocate other).select host id =
      ((panel.select host id).1.relocate other, (panel.select host id).2) := by
  have used : (panel.save host).1.configuration.Agrees other := by
    rwa [configuration_save]
  simp only [select, save_relocate agrees drafted]
  split
  · rfl
  · have rendered (chosen : Option String) :
        ({ (panel.save host).1 with selectedSubtype := chosen, current := some id }.relocate
          other).render (panel.save host).2.1 = _ := render_relocate used
    rw [determineSubtype_relocate used]
    exact congrArg (fun shown => (shown.1, (panel.save host).2.1, shown.2)) (rendered _)

theorem clearSelection_relocate :
    (panel.relocate other).clearSelection host =
      ((panel.clearSelection host).1.relocate other, (panel.clearSelection host).2) := by
  simp only [clearSelection, save_relocate agrees drafted]
  rfl

theorem handle_relocate (given : HostEvent) :
    (panel.relocate other).handle host given =
      ((panel.handle host given).1.relocate other, (panel.handle host given).2) := by
  cases given with
  | importDone => simp only [handle, onImport_relocate agrees]
  | selectionChanged selection =>
      simp only [handle, ready_relocate, select_relocate agrees drafted,
        clearSelection_relocate agrees drafted]
      split
      · split <;> rfl
      · rfl

theorem switchSubtype_relocate (name : String) :
    (panel.relocate other).switchSubtype host name =
      ((panel.switchSubtype host name).1.relocate other, (panel.switchSubtype host name).2) := by
  have used : (panel.save host).1.configuration.Agrees other := by
    rwa [configuration_save]
  unfold switchSubtype
  cases selected : panel.current with
  | none => simp only [current_relocate, selected]
  | some id =>
      have same : (panel.relocate other).knowsSubtype host id name =
          panel.knowsSubtype host id name := rfl
      simp only [current_relocate, selected, same, save_relocate agrees drafted,
        rewriteSubtype_relocate used]
      split
      · obtain ⟨left, outcome⟩ := (panel.save host).1.rewriteSubtype (panel.save host).2.1 id name
        have rendered : ({ (panel.save host).1 with selectedSubtype := some name }.relocate
            other).render left = _ := render_relocate used
        cases outcome with
        | error error => rfl
        | ok => exact congrArg (fun shown => (shown.1, left, Except.ok ())) rendered
      · rfl

end Waiting

/-- The table knows the locations of the fields that the panel can show and stage, of its drafts and
of the criteria of all elements. -/
structure Located (panel : Panel) (host : Host) : Prop where
  shown : ∀ elementType selected, ∀ entry ∈ panel.configuration.shownFields elementType selected,
    panel.configuration.Knows entry.2.location
  staged : ∀ field descriptor, panel.descriptor? host field = some descriptor →
    panel.configuration.Knows descriptor.location
  drafted : ∀ draft ∈ panel.pending.drafts, panel.configuration.Knows draft.location
  criteria : ∀ elementType element, panel.configuration.element? elementType = some element →
    ∀ kind ∈ element.subtypes, ∀ criterion ∈ kind.criteria,
      panel.configuration.Knows criterion.location

theorem Drafted.located (drafted : panel.Drafted)
    (known : ∀ name, panel.configuration.Uses name → panel.configuration.Knows name) :
    panel.Located host :=
  { shown := fun _ _ _ shown => known _ (Configuration.uses_shownFields shown)
    staged := fun _ _ shown =>
      known _ (Configuration.mem_usedLocations.mp (location_descriptor? shown))
    drafted := fun draft waiting => known _ (drafted draft waiting)
    criteria := fun _ _ configured _ offered _ listed =>
      known _ (.criterion configured offered listed) }

end Panel

namespace Operation

variable {other : LocationTable}

/-- An operation looks up no more than the locations in use. -/
theorem perform_relocate (operation : Operation Host) {panel : Panel} {host : Host}
    (agrees : panel.configuration.Agrees other) (drafted : panel.Drafted) :
    operation.perform (panel.relocate other, host) =
      ((operation.perform (panel, host)).1.relocate other,
        (operation.perform (panel, host)).2) := by
  cases operation with
  | select id => simp only [perform, Panel.select_relocate agrees drafted]
  | clearSelection => exact Panel.clearSelection_relocate agrees drafted
  | input field value => simp only [perform, Panel.input_relocate]
  | save => simp only [perform, Panel.save_relocate agrees drafted]
  | switchSubtype name => simp only [perform, Panel.switchSubtype_relocate agrees drafted]
  | render => simp only [perform, Panel.render_relocate agrees]
  | event given => exact Panel.handle_relocate agrees drafted given
  | change made => rfl

/-- A draft of a field that is shown has a location in use. -/
theorem drafted_perform (operation : Operation Host) (state : Panel × Host)
    (drafted : state.1.Drafted) : (operation.perform state).1.Drafted := by
  intro draft waiting
  rw [show (operation.perform state).1.configuration = _ from configuration_run [operation] state]
  cases pending_perform waiting with
  | inl before => exact drafted draft before
  | inr typing =>
      obtain ⟨_, _, stages⟩ := typing
      exact Configuration.mem_usedLocations.mp (Panel.location_descriptor? stages.described)

theorem drafted_run (operations : List (Operation Host)) (state : Panel × Host)
    (drafted : state.1.Drafted) : (run operations state).1.Drafted := by
  induction operations generalizing state with
  | nil => exact drafted
  | cons operation rest ih => exact ih _ (operation.drafted_perform state drafted)

/-- A run looks up no more than the locations in use. -/
theorem run_relocate (operations : List (Operation Host)) (state : Panel × Host)
    (agrees : state.1.configuration.Agrees other) (drafted : state.1.Drafted) :
    run operations (state.1.relocate other, state.2) =
      ((run operations state).1.relocate other, (run operations state).2) := by
  induction operations generalizing state with
  | nil => rfl
  | cons operation rest ih =>
      have kept : (operation.perform state).1.configuration = state.1.configuration :=
        configuration_run [operation] state
      change run rest (operation.perform (state.1.relocate other, state.2)) = _
      rw [perform_relocate operation agrees drafted]
      exact ih _ (by rwa [kept]) (operation.drafted_perform state drafted)

end Operation

namespace Configuration

/-- The warnings of unknown locations are in ascending order, and they report exactly the locations
that are used and are not declared by steps that compile. Without such a warning every location that
a run of a panel can look up is known, so that the run is the same with any further locations. -/
theorem load_unknownLocations (declaration : ConfigurationDeclaration) :
    let configuration := load declaration
    let unknown := configuration.warnings.filterMap ConfigurationError.unknownLocation?
    unknown.Pairwise (· < ·) ∧
      (∀ name, name ∈ unknown ↔ configuration.Uses name ∧ ¬ configuration.Knows name) ∧
      (∀ name, ¬ configuration.Knows name ↔ ∀ steps, declaration.locations.find? name = some steps →
        ∃ defect, Location.compile name steps = .error defect) ∧
      (unknown = [] → ∀ (Host : Type) [DiagramHost Host] (start : Host)
        (operations : List (Operation Host)) (panel : Panel) (host : Host),
        Operation.run operations (.new configuration, start) = (panel, host) →
          panel.Located host ∧
          ∀ other : LocationTable, (∀ name location,
              configuration.locations.find? name = some location →
                other.find? name = some location) →
            Operation.run operations (.new { configuration with locations := other }, start) =
                (panel.relocate other, host) ∧
              (∀ id, (panel.relocate other).determineSubtype host id =
                panel.determineSubtype host id) ∧
              ∀ name, ((panel.relocate other).switchSubtype host name).2 =
                (panel.switchSubtype host name).2) := by
  intro configuration unknown
  have reported : unknown = configuration.unknownLocations.names := warnings_load declaration
  refine ⟨?_, fun name => ?_, fun name => ?_, ?_⟩
  · rw [reported]
    exact configuration.unknownLocations.ascending
  · rw [reported, not_knows]
    exact mem_unknownLocations
  · rw [not_knows, locations_load, LocationTable.find?_compile]
  · intro clean Host _ start operations panel host reached
    rw [reported] at clean
    have known (name : String) (used : configuration.Uses name) := used.knows clean
    have first : (Panel.new configuration).Drafted := fun draft waiting => by cases waiting
    have kept := Operation.configuration_run operations (Panel.new configuration, start)
    have drafted := Operation.drafted_run operations (.new configuration, start) first
    rw [reached] at kept drafted
    refine ⟨drafted.located (kept ▸ known), fun other more => ?_⟩
    have agrees := agrees_of_more known more
    have present : panel.configuration.Agrees other := kept.symm ▸ agrees
    refine ⟨?_, Panel.determineSubtype_relocate present, fun name => ?_⟩
    · have moved := Operation.run_relocate operations (.new configuration, start) agrees first
      rwa [reached] at moved
    · rw [Panel.switchSubtype_relocate present drafted]

section Memos

/-- Tasks with a memo at a location, of which one is declared without steps. -/
def memoDeclaration (location : String) : ConfigurationDeclaration :=
  ⟨.ofList [("own", [⟨"memo", none, false, .empty⟩]), ("broken", [])],
    .ofList [("Task", .ofList [("memo", .field (.atLocation location))])]⟩

def memoOperations : List (Operation Diagram) :=
  [.event .importDone, .select "task", .input "memo" (.text "m"), .save]

/-- A memo is warned of if its location has no steps. Otherwise a run that stages and saves it is
the same in a table that has the other location too. -/
theorem load_unknownLocations_memo :
    let configuration := load (memoDeclaration "own")
    let other := configuration.locations.insert "broken" ⟨"broken", [.leaf .fieldId]⟩
    let diagram := (Diagram.new .permissive).insert ⟨"task", "Task", .empty "Task"⟩
    let (panel, left) := Operation.run memoOperations (.new configuration, diagram)
    "broken" ∈ (load (memoDeclaration "broken")).warnings.filterMap
        ConfigurationError.unknownLocation? ∧
      configuration.warnings = [.malformedLocation "broken" .noSteps] ∧
      left.mutations.length = 1 ∧ panel.Located left ∧
      Operation.run memoOperations (.new { configuration with locations := other }, diagram) =
        (panel.relocate other, left) := by
  obtain ⟨_, reported, absent, _⟩ := load_unknownLocations (memoDeclaration "broken")
  obtain ⟨_, _, _, clean⟩ := load_unknownLocations (memoDeclaration "own")
  obtain ⟨located, same⟩ := clean rfl Diagram
    ((Diagram.new .permissive).insert ⟨"task", "Task", .empty "Task"⟩) memoOperations _ _ rfl
  refine ⟨(reported "broken").mpr ⟨mem_usedLocations.mp (by decide), ?_⟩, by decide, by decide,
    located, (same _ fun name location found => ?_).1⟩
  · refine (absent "broken").mpr fun steps declared => ?_
    cases declared
    exact ⟨_, rfl⟩
  · rw [Dictionary.find?_insert]
    split
    · rename_i broken
      rw [broken] at found
      cases found
    · exact found

end Memos

end Configuration

end PropertyPanel

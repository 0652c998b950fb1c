/-
This file proves that under the built-in configuration it does not matter in which order the fields
of an element are edited before the edits are saved.
-/

import PropertyPanel.Proofs.Builtin
import PropertyPanel.Proofs.Panel.Entry
import PropertyPanel.Proofs.Panel.Presence

namespace PropertyPanel.Panel

section Enter

variable {Host : Type} [DiagramHost Host]

/-- Inputs of several fields are given to a panel one after the other. -/
def enter (panel : Panel) (host : Host) (inputs : List (String × FieldInput)) : Panel :=
  inputs.foldl (fun panel input => (panel.input host input.1 input.2).1) panel

/-- The draft that an input makes if its field is shown and can be edited. -/
def draftOf? (panel : Panel) (host : Host) (id : ElementId) (input : String × FieldInput) :
    Option Draft :=
  (panel.descriptor? host input.1).bind fun descriptor =>
    if descriptor.readonly then none else some ⟨id, input.1, descriptor, input.2.value⟩

variable {panel : Panel} {host : Host} {id : ElementId}

theorem draftOf?_eq_some {input : String × FieldInput} {draft : Draft}
    (made : panel.draftOf? host id input = some draft) :
    draft.element = id ∧ draft.field = input.1 ∧ draft.value = input.2.value ∧
      panel.descriptor? host draft.field = some draft.descriptor := by
  obtain ⟨descriptor, shown, made⟩ := Option.bind_eq_some_iff.mp made
  split at made
  · cases made
  · cases made
    exact ⟨rfl, rfl, rfl, shown⟩

/-- An input stages the draft that it makes and changes nothing else. -/
theorem input_draftOf? (selected : panel.current = some id) (given : String × FieldInput) :
    (panel.input host given.1 given.2).1 = { panel with
      pending := (panel.draftOf? host id given).toList.foldl DraftBuffer.stage panel.pending } := by
  cases shown : panel.descriptor? host given.1 with
  | none =>
      have ignored : (panel.input host given.1 given.2).1 = panel := by
        simp only [input, selected, shown]
      rw [ignored, draftOf?, shown]
      rfl
  | some descriptor =>
      cases editable : descriptor.readonly with
      | true =>
          have ignored : (panel.input host given.1 given.2).1 = panel := by
            simp only [input, selected, shown, editable, if_true]
          rw [ignored, draftOf?, shown, Option.bind_some, if_pos editable]
          rfl
      | false =>
          rw [input_staged selected shown editable, draftOf?, shown, Option.bind_some,
            if_neg (by simp [editable])]
          rfl

/-- Inputs stage the drafts that they make in the order in which they are given. -/
theorem enter_draftOf? (selected : panel.current = some id)
    (inputs : List (String × FieldInput)) :
    panel.enter host inputs = { panel with
      pending := (inputs.filterMap (panel.draftOf? host id)).foldl DraftBuffer.stage
        panel.pending } := by
  have fold (pending : DraftBuffer) : enter { panel with pending } host inputs = { panel with
      pending := (inputs.filterMap (panel.draftOf? host id)).foldl DraftBuffer.stage pending } := by
    induction inputs generalizing pending with
    | nil => rfl
    | cons given rest ih =>
        have still : ({ panel with pending } : Panel).current = some id := selected
        have first : (Panel.input { panel with pending } host given.1 given.2).1 =
            { panel with
              pending := (panel.draftOf? host id given).toList.foldl DraftBuffer.stage pending } :=
          input_draftOf? still given
        have parts : (given :: rest).filterMap (panel.draftOf? host id) =
            (panel.draftOf? host id given).toList ++ rest.filterMap (panel.draftOf? host id) := by
          cases made : panel.draftOf? host id given with
          | none => exact List.filterMap_cons_none made
          | some draft => exact List.filterMap_cons_some made
        rw [parts, List.foldl_append, ← ih, enter, List.foldl_cons, first]
        rfl
  exact fold panel.pending

/-- The drafts have the fields of their inputs. -/
theorem fields_draftOf? (inputs : List (String × FieldInput)) :
    ((inputs.filterMap (panel.draftOf? host id)).map Draft.field).Sublist
      (inputs.map Prod.fst) := by
  induction inputs with
  | nil => exact .slnil
  | cons given rest ih =>
      cases made : panel.draftOf? host id given with
      | none =>
          rw [List.filterMap_cons_none made]
          exact ih.cons _
      | some draft =>
          rw [List.filterMap_cons_some made, List.map_cons, (draftOf?_eq_some made).2.1]
          exact ih.cons_cons _

/-- Distinct inputs to a panel without drafts leave exactly the drafts that they make. -/
theorem drafts_enter (selected : panel.current = some id) (clean : panel.pending = .empty)
    {inputs : List (String × FieldInput)} (distinct : (inputs.map Prod.fst).Nodup) :
    (panel.enter host inputs).pending.drafts = inputs.filterMap (panel.draftOf? host id) := by
  rw [enter_draftOf? selected, clean]
  refine DraftBuffer.foldl_stage (List.Nodup.of_map Prod.snd ?_)
  rw [List.map_map]
  exact distinct.sublist (fields_draftOf? inputs)

/-- The inputs change nothing but the drafts. -/
theorem descriptor?_enter (selected : panel.current = some id)
    (inputs : List (String × FieldInput)) (field : String) :
    (panel.enter host inputs).descriptor? host field = panel.descriptor? host field := by
  rw [enter_draftOf? selected]
  rfl

theorem descriptor?_save [LawfulHost Host] (panel : Panel) (host : Host) (field : String) :
    (panel.save host).1.descriptor? (panel.save host).2.1 field = panel.descriptor? host field := by
  simp only [descriptor?, current_save, configuration_save, selectedSubtype_save,
    elementType?_save]

end Enter

section Flush

variable {locations : LocationTable} {id : ElementId}

/-- A draft that can edit its object is applied to a diagram. -/
theorem applyDraft_edit {draft : Draft} {diagram : Diagram} {object : BusinessObject}
    (present : DiagramHost.businessObject? diagram draft.element = some object)
    (done : (locations.edit diagram.registry draft object).2 = .ok ()) :
    (applyDraft locations draft diagram).2 = .ok () ∧
      DiagramHost.businessObject? (applyDraft locations draft diagram).1 draft.element =
        some (locations.edit diagram.registry draft object).1 := by
  have applied : (applyDraft locations draft diagram).2 = .ok () := by
    have application := applyDraft_cases locations draft diagram
    generalize applyDraft locations draft diagram = result at application
    cases application with
    | unknown missing => cases missing.symm.trans present
    | stuck other error held outcome =>
        cases held.symm.trans present
        cases outcome.symm.trans done
    | unnoticed other after held outcome same => rfl
    | reported other after held outcome different =>
        exact Diagram.updateProperties_known _ _
          (diagram_contains (businessObject?_edited after held)) [draft.update]
  obtain ⟨other, held, _, edited⟩ := applyDraft_applied applied
  cases held.symm.trans present
  exact ⟨applied, edited⟩

/-- Drafts of placed fields of one element are all applied, one after the other. -/
theorem calls_placed {drafts : List Draft} {diagram : Diagram} {object : BusinessObject}
    (types : ∀ nodeType ∈ placedTypes, diagram.registry.knows nodeType = true)
    (own : ∀ draft ∈ drafts, draft.element = id)
    (places : ∀ draft ∈ drafts, locations.Places draft.field draft.location)
    (present : DiagramHost.businessObject? diagram id = some object) :
    (∀ call ∈ DraftBuffer.calls (applyDraft locations) drafts diagram, call.2 = .ok ()) ∧
      DiagramHost.businessObject? (DraftBuffer.replay (applyDraft locations) drafts diagram) id =
        some (locations.editAll diagram.registry drafts object) := by
  induction drafts generalizing diagram object with
  | nil => exact ⟨fun call inside => (by cases inside), present⟩
  | cons draft rest ih =>
      rw [List.forall_mem_cons] at own places
      obtain ⟨rfl, own⟩ := own
      obtain ⟨applied, edited⟩ := applyDraft_edit present
        (LocationTable.edit_placed types places.1 object)
      have kept : (applyDraft locations draft diagram).1.registry = diagram.registry :=
        (frame_applyDraft locations draft diagram).registry
      have later := ih (by rwa [kept]) own places.2 edited
      rw [kept] at later
      exact ⟨List.forall_mem_cons.mpr ⟨applied, later.1⟩, later.2⟩

end Flush

variable {panel : Panel} {diagram : Diagram} {id : ElementId} {object : BusinessObject}

/-- A field that the built-in configuration shows is placed. -/
theorem places_descriptor? (builtin : Configuration.builtin = .ok panel.configuration)
    {field : String} {descriptor : FieldDescriptor}
    (shown : panel.descriptor? diagram field = some descriptor) :
    panel.configuration.locations.Places field descriptor.location := by
  obtain ⟨fields, listed, found⟩ := find?_descriptor? shown
  exact Configuration.builtin_places builtin listed found

/-- The drafts that inputs make are of placed fields and have no empty values. -/
theorem settled_draftOf? (builtin : Configuration.builtin = .ok panel.configuration)
    {inputs : List (String × FieldInput)} :
    ∀ draft ∈ inputs.filterMap (panel.draftOf? diagram id),
      panel.configuration.locations.Settled draft := by
  intro draft listed
  obtain ⟨given, _, made⟩ := List.mem_filterMap.mp listed
  obtain ⟨_, _, value, shown⟩ := draftOf?_eq_some made
  refine ⟨places_descriptor? builtin shown, fun held present => ?_⟩
  rw [value] at present
  exact FieldInput.value_filled present

/-- A save applies all drafts of distinct inputs to the object of the selected element. -/
theorem save_enter (builtin : Configuration.builtin = .ok panel.configuration)
    (ready : panel.ready = true) (clean : panel.pending = .empty)
    (selected : panel.current = some id)
    (types : ∀ nodeType ∈ placedTypes, diagram.registry.knows nodeType = true)
    (present : diagram.businessObject? id = some object)
    {inputs : List (String × FieldInput)} (distinct : (inputs.map Prod.fst).Nodup) :
    let (saved, left, _) := (panel.enter diagram inputs).save diagram
    saved.pending.drafts = [] ∧ left.businessObject? id =
      some (panel.configuration.locations.editAll diagram.registry
        (inputs.filterMap (panel.draftOf? diagram id)) object) := by
  have configuration : (panel.enter diagram inputs).configuration = panel.configuration := by
    rw [enter_draftOf? selected]
  have still : (panel.enter diagram inputs).ready = true := by
    rw [enter_draftOf? selected]
    exact ready
  have own : ∀ draft ∈ inputs.filterMap (panel.draftOf? diagram id), draft.element = id := by
    intro draft listed
    obtain ⟨given, _, made⟩ := List.mem_filterMap.mp listed
    exact (draftOf?_eq_some made).1
  have applied := calls_placed types own
    (fun draft listed => (settled_draftOf? builtin draft listed).1) present
  dsimp only
  rw [drafts_save diagram still, host_save diagram still, configuration,
    drafts_enter selected clean distinct]
  exact ⟨DraftBuffer.failed_eq_nil _ |>.mpr applied.1, applied.2⟩

/-- Under the built-in configuration the order in which distinct fields of an element are edited
does not matter: a save applies all edits, and afterwards every shown field reads the same. -/
theorem save_order_free (panel : Panel)
    (builtin : Configuration.builtin = .ok panel.configuration) (ready : panel.ready = true)
    (clean : panel.pending = .empty) (selected : panel.current = some id) (diagram : Diagram)
    (types : ∀ nodeType ∈ placedTypes, diagram.registry.knows nodeType = true)
    (present : diagram.businessObject? id = some object) (extensible : object.Extensible)
    (inputs others : List (String × FieldInput)) (distinct : (inputs.map Prod.fst).Nodup)
    (permuted : inputs.Perm others) :
    let (first, left, _) := (panel.enter diagram inputs).save diagram
    let (second, right, _) := (panel.enter diagram others).save diagram
    first.pending.drafts = [] ∧ second.pending.drafts = [] ∧
      ∀ field, first.descriptor? left field = panel.descriptor? diagram field ∧
        second.descriptor? right field = panel.descriptor? diagram field ∧
        ∀ descriptor, panel.descriptor? diagram field = some descriptor →
          ((left.businessObject? id).bind fun node =>
              panel.configuration.locations.read node field descriptor.location) =
            (right.businessObject? id).bind fun node =>
              panel.configuration.locations.read node field descriptor.location := by
  have here := save_enter builtin ready clean selected types present distinct
  have there := save_enter builtin ready clean selected types present
    ((permuted.map _).nodup_iff.mp distinct)
  have still (inputs : List (String × FieldInput)) (field : String) :
      ((panel.enter diagram inputs).save diagram).1.descriptor?
        ((panel.enter diagram inputs).save diagram).2.1 field = panel.descriptor? diagram field :=
    (descriptor?_save _ diagram field).trans (descriptor?_enter selected inputs field)
  refine ⟨here.1, there.1, fun field => ⟨still inputs field, still others field, ?_⟩⟩
  intro descriptor shown
  obtain ⟨location, known, placed⟩ := places_descriptor? builtin shown
  rw [here.2, there.2, Option.bind_some, Option.bind_some]
  refine LocationTable.read_editAll_perm types (permuted.filterMap _)
    (settled_draftOf? builtin) (distinct.sublist (fields_draftOf? inputs)) known placed ?_
    extensible
  intro draft listed same
  obtain ⟨given, _, made⟩ := List.mem_filterMap.mp listed
  obtain ⟨_, _, _, described⟩ := draftOf?_eq_some made
  rw [same, shown] at described
  cases described
  rfl

section Request

/-- The only extension of the task is the address of a request. -/
def requestTask : BusinessObject :=
  (BusinessObject.empty "bpmn:ServiceTask").setProperty "extensionElements"
    (.single ((BusinessObject.empty "bpmn:ExtensionElements").setProperty "values" (.sequence
      [((BusinessObject.empty "flowable:Field").setScalar "name"
        (some (.text "requestUrl"))).setScalar "stringValue" (some (.text "u"))])))

def requestDiagram : Diagram :=
  (Diagram.new (.ofList placedTypes)).insert ⟨"task", "bpmn:ServiceTask", requestTask⟩

def requestPanel (configuration : Configuration) : Panel :=
  { new configuration with
    ready := true
    current := some "task"
    selectedSubtype := some "http" }

/-- The address is cleared, and the headers, the documentation and the name are set. -/
def requestInputs : List (String × FieldInput) :=
  [("requestUrl", .text ""), ("requestHeaders", .text "h"), ("documentation", .text "d"),
    ("name", .text "n")]

/-- The task after the inputs have been saved. -/
def requestSaved (inputs : List (String × FieldInput)) (configuration : Configuration) :
    Option BusinessObject :=
  let (_, left, _) := ((requestPanel configuration).enter requestDiagram inputs).save requestDiagram
  left.businessObject? "task"

set_option maxRecDepth 100000 in
/-- The address is cleared before or after the headers are set, which leaves different trees that
read the same. -/
theorem save_order_free_request :
    ∃ configuration, Configuration.builtin = .ok configuration ∧
      requestSaved requestInputs configuration ≠
        requestSaved requestInputs.reverse configuration ∧
      let panel := requestPanel configuration
      let (first, left, _) := (panel.enter requestDiagram requestInputs).save requestDiagram
      let (second, right, _) :=
        (panel.enter requestDiagram requestInputs.reverse).save requestDiagram
      first.pending.drafts = [] ∧ second.pending.drafts = [] ∧
        ∀ field descriptor, panel.descriptor? requestDiagram field = some descriptor →
          ((left.businessObject? "task").bind fun node =>
              configuration.locations.read node field descriptor.location) =
            (right.businessObject? "task").bind fun node =>
              configuration.locations.read node field descriptor.location := by
  have trees : Configuration.builtin.toOption.any (fun configuration =>
      decide (requestSaved requestInputs configuration ≠
        requestSaved requestInputs.reverse configuration)) = true := by
    unfold Configuration.builtin Configuration.ofJsonText Json.source? Json.Token.scan?
      Configuration.builtinText
    rw [String.toList_ofList]
    decide +kernel
  obtain ⟨configuration, loaded, different⟩ := (Option.any_eq_true _ _).mp trees
  have given : Configuration.builtin = .ok configuration := Outcome.of_toOption loaded
  have extensible : requestTask.Extensible := by
    refine .inr ⟨_, rfl, rfl, fun child held => ?_⟩
    cases held
  have free := save_order_free (requestPanel configuration) given rfl rfl rfl requestDiagram
    (by decide) rfl extensible requestInputs requestInputs.reverse (by decide)
    (List.reverse_perm _).symm
  exact ⟨configuration, given, of_decide_eq_true different, free.1, free.2.1,
    fun field => (free.2.2 field).2.2⟩

end Request

end PropertyPanel.Panel

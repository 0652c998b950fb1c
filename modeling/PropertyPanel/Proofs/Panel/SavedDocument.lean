/-
This file proves that the names in a diagram that is edited by a panel are those of the document it
was opened from and those that the configuration writes, and when its saved document is read back.
-/

import PropertyPanel.Proofs.Diagram.Document
import PropertyPanel.Proofs.Panel.Application
import PropertyPanel.Proofs.Panel.Shown
import PropertyPanel.Proofs.Panel.Staging
import PropertyPanel.Proofs.Resolution.Names

namespace PropertyPanel

/-- A save of an editable field or a switch to a subtype can create a property of the name. -/
inductive Configuration.Writes (configuration : Configuration) (name : String) : Prop where
  | field {fields : FieldMap} {field : String} {descriptor : FieldDescriptor}
      {location : Location} (listed : fields ∈ configuration.allFields)
      (found : fields.find? field = some descriptor) (editable : descriptor.readonly = false)
      (known : configuration.locations.find? descriptor.location = some location)
      (introduced : name ∈ location.introduces field)
  | criterion {element : ElementConfiguration} {kind : ElementSubtype} {criterion : Criterion}
      {location : Location} (configured : element ∈ configuration.elements.values)
      (offered : kind ∈ element.subtypes) (listed : criterion ∈ kind.criteria)
      (valued : criterion.value.isSome = true)
      (known : configuration.locations.find? criterion.location = some location)
      (introduced : name ∈ location.introduces criterion.id)

variable {Host : Type} [DiagramHost Host] {allowed : String → Prop}

namespace Panel

/-- The objects of all elements have allowed names only. -/
def NamedObjects (allowed : String → Prop) (host : Host) : Prop :=
  ∀ id object, DiagramHost.businessObject? host id = some object → object.Named allowed

/-- A draft that is staged is written under names that the configuration writes. -/
theorem Stages.permits {state : Panel × Host} {typed : FieldInput} {draft : Draft}
    (stages : Stages state typed draft)
    (written : ∀ name, state.1.configuration.Writes name → allowed name) :
    state.1.configuration.locations.Permits allowed draft.update := by
  obtain ⟨fields, listed, found⟩ := find?_descriptor? stages.described
  intro _ location known name introduced
  exact written name (.field listed found stages.editable known introduced)

theorem permits_fitting {configuration : Configuration} {element : ElementConfiguration}
    (configured : element ∈ configuration.elements.values) {wanted : ElementSubtype}
    (offered : wanted ∈ element.subtypes)
    (written : ∀ name, configuration.Writes name → allowed name) :
    ∀ update ∈ LocationTable.fitting wanted, configuration.locations.Permits allowed update := by
  intro update listed
  obtain ⟨criterion, inside, same⟩ := List.mem_filterMap.mp listed
  obtain ⟨value, expected, made⟩ := Option.map_eq_some_iff.mp same
  subst made
  intro _ location known name introduced
  exact written name (.criterion configured offered inside (by simp [expected]) known introduced)

section Lawful

variable [LawfulHost Host] {host : Host} {id : ElementId}

theorem namedObjects_replaceObject (named : NamedObjects allowed host)
    {before object : BusinessObject}
    (present : DiagramHost.businessObject? host id = some before)
    (edited : object.Named allowed) :
    NamedObjects allowed (DiagramHost.replaceObject host id object) := by
  intro other found held
  rw [LawfulHost.businessObject?_replaceObject host id other before object present] at held
  split at held
  · cases held
    exact edited
  · exact named other found held

theorem namedObjects_updateProperties (named : NamedObjects allowed host)
    (updates : List PropertyUpdate) :
    NamedObjects allowed (DiagramHost.updateProperties host id updates).1 := by
  intro other found held
  rw [LawfulHost.businessObject?_updateProperties] at held
  exact named other found held

end Lawful

section Edit

variable {diagram : Diagram} {id : ElementId}

theorem namedObjects_applyDraft {locations : LocationTable} {draft : Draft}
    (permitted : locations.Permits allowed draft.update) (named : NamedObjects allowed diagram) :
    NamedObjects allowed (applyDraft locations draft diagram).1 := by
  have application := applyDraft_cases locations draft diagram
  generalize applyDraft locations draft diagram = result at application
  have kept {object after : BusinessObject} {outcome : Except ApplyError Unit}
      (present : DiagramHost.businessObject? diagram draft.element = some object)
      (done : locations.edit diagram.registry draft object = (after, outcome)) :
      NamedObjects allowed (edited diagram draft after) := by
    have written :=
      LocationTable.named_edit diagram.registry permitted (named _ _ present)
    rw [done] at written
    exact namedObjects_replaceObject named present written
  cases application with
  | unknown missing => exact named
  | stuck object error present outcome =>
      exact namedObjects_replaceObject named present (named _ _ present)
  | unnoticed object after present outcome same => exact kept present outcome
  | reported object after present outcome different =>
      exact namedObjects_updateProperties (kept present outcome) _

theorem namedObjects_save {panel : Panel}
    (permitted : ∀ draft ∈ panel.pending.drafts,
      panel.configuration.locations.Permits allowed draft.update)
    (named : NamedObjects allowed diagram) : NamedObjects allowed (panel.save diagram).2.1 :=
  save_kept (NamedObjects allowed) named fun draft listed _ kept =>
    namedObjects_applyDraft (permitted draft listed) kept

theorem namedObjects_rewriteSubtype {panel : Panel}
    (written : ∀ name, panel.configuration.Writes name → allowed name)
    (named : NamedObjects allowed diagram) (name : String) :
    NamedObjects allowed (panel.rewriteSubtype diagram id name).1 := by
  refine rewriteSubtype_kept (NamedObjects allowed) named (fun _ element _ configured present => ?_)
    (fun _ updates kept => namedObjects_updateProperties kept updates)
  have offered (wanted : ElementSubtype) (known : element.subtype? name = some wanted) :=
    permits_fitting (Dictionary.mem_values configured) (List.mem_of_find?_eq_some known) written
  exact namedObjects_replaceObject named present
    (LocationTable.named_switchTo diagram.registry offered (named _ _ present))

end Edit

end Panel

namespace Operation

/-- The operation is made in the panel and not to the host from outside. -/
def Inside (operation : Operation Host) : Prop := ∀ made, operation ≠ change made

theorem permits_perform {operation : Operation Host} {state : Panel × Host}
    (permitted : ∀ draft ∈ state.1.pending.drafts,
      state.1.configuration.locations.Permits allowed draft.update)
    (written : ∀ name, state.1.configuration.Writes name → allowed name) :
    ∀ draft ∈ (operation.perform state).1.pending.drafts,
      state.1.configuration.locations.Permits allowed draft.update := by
  intro draft waiting
  cases pending_perform waiting with
  | inl before => exact permitted draft before
  | inr typing =>
      obtain ⟨typed, _, stages⟩ := typing
      exact stages.permits written

/-- An operation of a panel brings no names into the objects but those that are allowed. -/
theorem namedObjects_perform {operation : Operation Diagram} (inside : operation.Inside)
    {state : Panel × Diagram}
    (permitted : ∀ draft ∈ state.1.pending.drafts,
      state.1.configuration.locations.Permits allowed draft.update)
    (written : ∀ name, state.1.configuration.Writes name → allowed name)
    (named : Panel.NamedObjects allowed state.2) :
    Panel.NamedObjects allowed (operation.perform state).2 := by
  obtain ⟨panel, host⟩ := state
  have saved := Panel.namedObjects_save permitted named
  refine operation.host_perform _ panel host named saved (fun id name _ _ => ?_)
    (fun made same => absurd same (inside made))
  refine Panel.namedObjects_rewriteSubtype ?_ saved name
  rwa [Panel.configuration_save]

/-- A run of a panel brings no names into the objects but those that the configuration writes. -/
theorem namedObjects_run {operations : List (Operation Diagram)}
    (inside : ∀ operation ∈ operations, operation.Inside) {state : Panel × Diagram}
    (permitted : ∀ draft ∈ state.1.pending.drafts,
      state.1.configuration.locations.Permits allowed draft.update)
    (written : ∀ name, state.1.configuration.Writes name → allowed name)
    (named : Panel.NamedObjects allowed state.2) :
    Panel.NamedObjects allowed (run operations state).2 := by
  induction operations generalizing state with
  | nil => exact named
  | cons operation rest ih =>
      rw [List.forall_mem_cons] at inside
      have same : (operation.perform state).1.configuration = state.1.configuration :=
        congrArg Prod.fst (fixed_run [operation] state)
      refine ih inside.2 ?_ (by rwa [same]) (namedObjects_perform inside.1 permitted written named)
      rw [same]
      exact permits_perform permitted written

end Operation

namespace Diagram

open BusinessObject (Unreserved)

theorem namedObjects_ofDocument {document : DiagramDocument} (named : document.Named) :
    Panel.NamedObjects Unreserved (ofDocument document) := by
  intro id object held
  change ((ofDocument document).element? id).map Element.businessObject = some object at held
  obtain ⟨element, known, same⟩ := Option.map_eq_some_iff.mp held
  have listed := Dictionary.mem_ofList (Dictionary.find?_eq_some.mp known)
  obtain ⟨_, inside, pair⟩ := List.mem_map.mp listed
  cases pair
  exact same ▸ named element inside

theorem named_toDocument {diagram : Diagram} (named : Panel.NamedObjects Unreserved diagram) :
    diagram.toDocument.Named := by
  intro element listed
  obtain ⟨entry, inside, same⟩ := List.mem_map.mp listed
  have known : diagram.elements.find? entry.1 = some element :=
    Dictionary.find?_eq_some.mpr (same ▸ inside)
  exact named entry.1 element.businessObject (congrArg (Option.map Element.businessObject) known)

end Diagram

open BusinessObject (typeName bodyName Unreserved) in
/-- A document that is saved after a run is read back exactly if it is not nested too deeply and no
property in it has the name of the type or of the body of a node, and such a property can only come
from a configuration that writes it. -/
theorem Operation.saved_document_read (configuration : Configuration) (text : String)
    (document : DiagramDocument) (opened : DiagramDocument.ofText? text = some document)
    (operations : List (Operation Diagram))
    (inside : ∀ operation ∈ operations, operation.Inside) :
    let saved := (run operations (.new configuration, .ofDocument document)).2.toDocument
    (DiagramDocument.ofText? saved.toJson.compact = some saved ↔
        saved.toJson.levels ≤ Source.nestingLimit ∧ saved.Named) ∧
      (¬ configuration.Writes typeName → ¬ configuration.Writes bodyName → saved.Named) := by
  intro saved
  refine ⟨saved.ofText?_toJson, fun typeKept bodyKept => ?_⟩
  have written (name : String) (writes : configuration.Writes name) : Unreserved name :=
    ⟨fun same => typeKept (same ▸ writes), fun same => bodyKept (same ▸ writes)⟩
  have start := Diagram.namedObjects_ofDocument (DiagramDocument.named_ofText? opened)
  refine Diagram.named_toDocument (namedObjects_run inside (fun draft waiting => ?_) written start)
  exact absurd waiting List.not_mem_nil

section Attribute

/-- A configuration whose only field is an attribute of every element. -/
def attributeConfiguration (field : String) (kind : InputKind) : Configuration :=
  ⟨.ofList [("attribute", ⟨"attribute", [.leaf .fieldId]⟩)],
    .ofList [(field, { FieldDescriptor.atLocation "attribute" with kind })], .empty, []⟩

/-- A document with one plain task. -/
def taskDocument : DiagramDocument :=
  ⟨.permissive, [.ofBusinessObject "task" (.empty "Task")]⟩

/-- The document that is saved after a value of the field is typed for the task. -/
def savedTask (field : String) (kind : InputKind) (typed : FieldInput) : DiagramDocument :=
  (Operation.run [.event .importDone, .select "task", .input field typed, .save]
    (.new (attributeConfiguration field kind), Diagram.ofDocument taskDocument)).2.toDocument

theorem taskDocument_named : taskDocument.Named := by
  intro element listed
  cases List.mem_singleton.mp listed
  exact .empty "Task"

/-- An attribute is written under the identifier of its field. -/
theorem writes_attribute {field name : String} {kind : InputKind}
    (writes : (attributeConfiguration field kind).Writes name) : name = field := by
  cases writes with
  | field listed found editable known introduced =>
      cases List.mem_singleton.mp listed
      have entry := List.mem_singleton.mp (Dictionary.find?_eq_some.mp found)
      cases entry
      cases known
      exact List.mem_singleton.mp introduced
  | criterion configured => cases configured

/-- A task with a name is read back as it was saved. -/
theorem saved_document_read_name :
    let saved := savedTask "name" .text (.text "n")
    saved.elements.map Element.businessObject = [⟨"Task", [("name", .scalar (.text "n"))], none⟩] ∧
      DiagramDocument.ofText? saved.toJson.compact = some saved := by
  have opened : DiagramDocument.ofText? taskDocument.toJson.compact = some taskDocument :=
    taskDocument.ofText?_toJson.mpr ⟨by decide, taskDocument_named⟩
  have inside : ∀ operation ∈ ([.event .importDone, .select "task", .input "name" (.text "n"),
      .save] : List (Operation Diagram)), operation.Inside := by
    simp [Operation.Inside]
  obtain ⟨read, kept⟩ := Operation.saved_document_read (attributeConfiguration "name" .text) _ _
    opened _ inside
  refine ⟨by rfl, read.mpr ⟨by decide, kept (fun writes => ?_) (fun writes => ?_)⟩⟩
  · exact absurd (writes_attribute writes) (by decide)
  · exact absurd (writes_attribute writes) (by decide)

/-- A task with a property that has the name of the type. -/
def retypedTask (value : Scalar) : DiagramDocument :=
  ⟨.permissive, [⟨"task", "Task", ⟨"Task", [("$type", .scalar value)], none⟩⟩]⟩

/-- A field with the name of the type turns the saved task into a note if it is a text, and makes
the document unreadable if it is a flag. -/
theorem saved_document_changed :
    DiagramDocument.ofText? taskDocument.toJson.compact = some taskDocument ∧
      savedTask "$type" .text (.text "Note") = retypedTask (.text "Note") ∧
      DiagramDocument.ofText? (retypedTask (.text "Note")).toJson.compact =
        some ⟨.permissive, [⟨"task", "Task", .empty "Note"⟩]⟩ ∧
      savedTask "$type" .boolean (.boolean true) = retypedTask (.flag true) ∧
      DiagramDocument.ofText? (retypedTask (.flag true)).toJson.compact = none := by
  refine ⟨taskDocument.ofText?_toJson.mpr ⟨by decide, taskDocument_named⟩, by rfl, ?_, by rfl, ?_⟩
  · rw [DiagramDocument.ofText?_compact]
    rfl
  · rw [DiagramDocument.ofText?_compact]
    rfl

end Attribute

end PropertyPanel

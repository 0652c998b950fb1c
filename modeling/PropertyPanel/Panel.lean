/-
This file defines the panel, which shows and edits the fields of the selected element.
-/

import PropertyPanel.Diagram.Host
import PropertyPanel.Form.Notice
import PropertyPanel.Form.View
import PropertyPanel.Resolution.Edit
import PropertyPanel.Resolution.Subtype

namespace PropertyPanel

/-- Between two operations a panel keeps the identifier of the element and nothing of the host. -/
structure Panel where
  configuration : Configuration
  pending : DraftBuffer
  current : Option ElementId
  selectedSubtype : Option String
  rendering : Bool
  ready : Bool
  view : Option PanelView
  notice : Option Notice

namespace Panel

def new (configuration : Configuration) : Panel :=
  ⟨configuration, .empty, none, none, false, false, none, none⟩

instance : Inhabited Panel := ⟨new .empty⟩

def resetSelection (panel : Panel) : Panel :=
  { panel with current := none, selectedSubtype := none, view := none }

variable {Host : Type} [DiagramHost Host]

/-- The object is edited in place, and the host is told only if the value has changed. -/
def applyDraft (locations : LocationTable) (draft : Draft) (host : Host) :
    Host × Except ApplyError Unit :=
  match DiagramHost.businessObject? host draft.element with
  | none => (host, .error (.unknownElement draft.element))
  | some before =>
      let (after, outcome) := locations.edit (DiagramHost.factory host draft.element) draft before
      let host := DiagramHost.replaceObject host draft.element after
      match outcome with
      | .error error => (host, .error error)
      | .ok () =>
          if locations.read before draft.field draft.location =
              locations.read after draft.field draft.location then
            (host, .ok ())
          else DiagramHost.updateProperties host draft.element [draft.update]

/-- A panel keeps its drafts until the host is ready. -/
def save (panel : Panel) (host : Host) : Panel × Host × Option Notice :=
  if panel.ready then
    let (host, pending, status) :=
      panel.pending.flush (applyDraft panel.configuration.locations) host
    let notice := Notice.ofStatus status
    ({ panel with pending, notice := notice.orElse fun _ => panel.notice }, host, notice)
  else (panel, host, none)

/-- The name of the subtype that fits the element best. -/
def determineSubtype (panel : Panel) (host : Host) (id : ElementId) : Option String := do
  let elementType ← DiagramHost.elementType? host id
  let element ← panel.configuration.element? elementType
  if element.hasSubtypes then
    let node ← DiagramHost.businessObject? host id
    (panel.configuration.locations.determine element node).map ElementSubtype.name
  else none

/-- A field shows its draft or else the value that the host has for it. -/
def currentValue (panel : Panel) (host : Host) (id : ElementId) (field : String)
    (descriptor : FieldDescriptor) : CurrentValue :=
  match panel.pending.get? id field with
  | some draft => ⟨draft.value, true⟩
  | none =>
      ⟨(DiagramHost.businessObject? host id).bind fun node =>
        panel.configuration.locations.read node field descriptor.location, false⟩

/-- Nothing is rendered during a rendering, and an element that is gone is no longer selected. -/
def render (panel : Panel) (host : Host) : Panel × Option PanelView :=
  if panel.rendering then (panel, none)
  else
    match panel.current with
    | none => ({ panel with view := none }, none)
    | some id =>
        match DiagramHost.elementType? host id with
        | none => (panel.resetSelection, none)
        | some elementType =>
            let busy := { panel with rendering := true }
            let view := panel.configuration.view id elementType panel.selectedSubtype
              (panel.currentValue host id)
            ({ busy with rendering := false, view := some view }, some view)

/-- Drafts are saved before another element is selected. -/
def select (panel : Panel) (host : Host) (id : ElementId) : Panel × Host × Option PanelView :=
  let (panel, host, _) := panel.save host
  if (DiagramHost.elementType? host id).isNone then (panel.resetSelection, host, none)
  else
    let (panel, view) :=
      { panel with
        selectedSubtype := panel.determineSubtype host id
        current := some id }.render host
    (panel, host, view)

def clearSelection (panel : Panel) (host : Host) : Panel × Host :=
  let (panel, host, _) := panel.save host
  (panel.resetSelection, host)

/-- The elements of drafts that the host no longer has. -/
def vanished (panel : Panel) (host : Host) : NameSet :=
  let lost := panel.pending.drafts.filter fun draft =>
    (DiagramHost.elementType? host draft.element).isNone
  .ofList (lost.map Draft.element)

/-- The drafts of the elements that are gone are dropped, one element after the other. -/
def discardVanished (panel : Panel) (host : Host) : Panel :=
  { panel with
    pending := (panel.vanished host).names.foldl DraftBuffer.discardElement panel.pending }

/-- After an import the panel is ready and shows the selected element again if it is still there. -/
def onImport (panel : Panel) (host : Host) : Panel :=
  let panel := { panel with ready := true }.discardVanished host
  match panel.current with
  | none => panel
  | some id =>
      if (DiagramHost.elementType? host id).isSome then
        ({ panel with selectedSubtype := panel.determineSubtype host id }.render host).1
      else panel.resetSelection

/-- Only a selection of exactly one element is shown. -/
def handle (panel : Panel) (host : Host) : HostEvent → Panel × Host
  | .importDone => (panel.onImport host, host)
  | .selectionChanged selection =>
      if panel.ready then
        match selection with
        | [id] =>
            let (panel, host, _) := panel.select host id
            (panel, host)
        | _ => panel.clearSelection host
      else (panel, host)

/-- Common fields hide other fields with their identifiers. -/
def descriptor? (panel : Panel) (host : Host) (field : String) : Option FieldDescriptor := do
  let id ← panel.current
  match panel.configuration.common.find? field with
  | some descriptor => return descriptor
  | none =>
      let elementType ← DiagramHost.elementType? host id
      let element ← panel.configuration.element? elementType
      match panel.selectedSubtype.bind element.subtype? with
      | some kind => kind.fields.find? field
      | none =>
          let fields ← element.fields
          fields.find? field

/-- An input is staged if the field is shown and can be edited. -/
def input (panel : Panel) (host : Host) (field : String) (input : FieldInput) : Panel × Bool :=
  match panel.current, panel.descriptor? host field with
  | some element, some descriptor =>
      if descriptor.readonly then (panel, false)
      else
        let draft : Draft := ⟨element, field, descriptor, input.value⟩
        ({ panel with pending := panel.pending.stage draft }, true)
  | _, _ => (panel, false)

/-- The element is rewritten to fit the subtype before the host is told of the updates. -/
def rewriteSubtype (panel : Panel) (host : Host) (id : ElementId) (name : String) :
    Host × Except ApplyError Unit :=
  match DiagramHost.elementType? host id with
  | none => (host, .error (.unknownElement id))
  | some elementType =>
      match panel.configuration.element? elementType, DiagramHost.businessObject? host id with
      | none, _ => (host, .error (.unknownType elementType))
      | some _, none => (host, .error (.unknownElement id))
      | some element, some before =>
          let (after, outcome) :=
            panel.configuration.locations.switchTo (DiagramHost.factory host id) element name before
          let host := DiagramHost.replaceObject host id after
          match outcome with
          | .error error => (host, .error error)
          | .ok updates =>
              if updates.isEmpty then (host, .ok ())
              else DiagramHost.updateProperties host id updates

def knowsSubtype (panel : Panel) (host : Host) (id : ElementId) (name : String) : Bool :=
  (((DiagramHost.elementType? host id).bind panel.configuration.element?).bind
    fun element => element.subtype? name).isSome

/-- A switch without a selection or to an unknown subtype changes nothing. -/
def switchSubtype (panel : Panel) (host : Host) (name : String) :
    Panel × Host × Except ApplyError Unit :=
  match panel.current with
  | none => (panel, host, .ok ())
  | some id =>
      if panel.knowsSubtype host id name then
        let (panel, host, _) := panel.save host
        match panel.rewriteSubtype host id name with
        | (host, .error error) => (panel, host, .error error)
        | (host, .ok ()) =>
            (({ panel with selectedSubtype := some name }.render host).1, host, .ok ())
      else (panel, host, .ok ())

end Panel

end PropertyPanel

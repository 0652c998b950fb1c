/-
This file drives a panel on a diagram to edit a single element.
-/

import PropertyPanel.CommandLine.Report
import PropertyPanel.Diagram.Memory
import PropertyPanel.Panel

namespace PropertyPanel.CommandLine

/-- A session is a panel with the diagram that it shows. -/
structure Session where
  panel : Panel
  diagram : Diagram

namespace Session

/-- The panel is told of the import before anything is selected. -/
def start (configuration : Configuration) (document : DiagramDocument) : Session :=
  let (panel, diagram) :=
    (Panel.new configuration).handle (Diagram.ofDocument document) .importDone
  ⟨panel, diagram⟩

def select (session : Session) (element : ElementId) : Except CommandError Session :=
  if (session.diagram.element? element).isNone then .error (.unknownElement element)
  else
    let (panel, diagram) := session.panel.handle session.diagram (.selectionChanged [element])
    .ok ⟨panel, diagram⟩

def view (session : Session) : Except CommandError PanelView :=
  match session.panel.view with
  | some view => .ok view
  | none => .error .nothingToShow

/-- Only fields that are shown and can be edited are staged. -/
def stage (session : Session) (element : ElementId) (assignment : Assignment) :
    Except CommandError Session :=
  match session.panel.descriptor? session.diagram assignment.field with
  | none => .error (.hiddenField assignment.field element)
  | some descriptor =>
      if descriptor.readonly then .error (.readonlyField assignment.field)
      else
        match FieldInput.parse descriptor.kind assignment.raw with
        | .error error => .error (.invalidValue assignment.field error)
        | .ok input =>
            .ok { session with
              panel := (session.panel.input session.diagram assignment.field input).1 }

/-- The first assignment that is refused ends the staging. -/
def stageAll (session : Session) (element : ElementId) :
    List Assignment → List Assignment × Except CommandError Session
  | [] => ([], .ok session)
  | assignment :: rest =>
      match session.stage element assignment with
      | .error error => ([], .error error)
      | .ok staged =>
          let (accepted, outcome) := staged.stageAll element rest
          (assignment :: accepted, outcome)

def save (session : Session) : Session × Option Notice :=
  let (panel, diagram, notice) := session.panel.save session.diagram
  (⟨panel, diagram⟩, notice)

/-- An element whose form has no selector has no subtypes to switch to. -/
def subtypes (session : Session) : Except CommandError (List String) :=
  session.view.map fun view => (view.selector?.map TypeSelector.options).getD []

def switchTo (session : Session) (element : ElementId) (subtype : String) :
    Except CommandError Session := do
  let options ← session.subtypes
  if options.isEmpty then throw (.withoutSubtypes element)
  if !options.contains subtype then throw (.unknownSubtype element subtype options)
  match session.panel.switchSubtype session.diagram subtype with
  | (panel, diagram, .ok ()) => return ⟨panel, diagram⟩
  | (_, _, .error error) => throw (.failedSwitch element subtype error)

end Session

end PropertyPanel.CommandLine

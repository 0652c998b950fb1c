/-
This file carries out the requests of a command line.
-/

import PropertyPanel.CommandLine.Session
import PropertyPanel.Text.Printable
import PropertyPanel.Workspace.Project

namespace PropertyPanel.CommandLine

variable {Action : Type → Type} [Monad Action] [FileSystem Action]

/-- A configuration that is asked for by name wins over the one of the project. -/
def configuration (style : Style) (options : Options) : Run Action Configuration := do
  let project ← Run.ofWorkspace Project.current?
  let configuration ← match options.configuration, project with
    | some path, _ => do
        style.noteAbout "config" ("Using " ++ path.text)
        Run.ofWorkspace (Configuration.loadFile path)
    | none, some project => do
        style.noteAbout "config" ("Using project at " ++ project.root.text)
        Run.ofWorkspace project.configuration
    | none, none => do
        style.noteAbout "config" "Using built-in configuration"
        Run.ofWorkspace Configuration.loadBuiltin
  for warning in configuration.warnings do
    style.noteAbout "config" ("Warning: " ++ warning.message)
  return configuration

/-- The store of the diagram and whether its document is written in the indented form. -/
def diagramStore (options : Options) : Run Action (DiagramStore × Bool) := do
  let project ← Run.ofWorkspace Project.current?
  let pretty := (project.map fun project => project.settings.project.pretty).getD true
  match options.diagram, project with
  | some path, _ => return (⟨path⟩, pretty)
  | none, some project =>
      return (← liftExcept (project.store.mapError CommandError.workspace), pretty)
  | none, none => throw .noDiagram

/-- An opened session knows where its diagram is kept. -/
structure OpenSession where
  session : Session
  store : DiagramStore
  pretty : Bool

def openSession (style : Style) (options : Options) (element : ElementId) :
    Run Action OpenSession := do
  let configuration ← configuration style options
  let (store, pretty) ← diagramStore options
  style.noteAbout "diagram" ("Loading " ++ store.path.text)
  let document ← Run.ofWorkspace store.load
  let session ← liftExcept ((Session.start configuration document).select element)
  return ⟨session, store, pretty⟩

/-- A diagram that no update has changed is not written. -/
def OpenSession.store? (opened : OpenSession) (session : Session) : Run Action Unit :=
  if 0 < session.diagram.revision then
    Run.ofWorkspace (opened.store.save session.diagram.toDocument opened.pretty)
  else pure ()

def init (style : Style) (path : Path) : Run Action Unit := do
  let project ← Run.ofWorkspace (Project.create path)
  style.noteAbout "init" ("Wrote " ++ projectFileName ++ ", " ++ Project.configurationFileName ++
    " and " ++ Project.diagramFileName)
  style.success ("Initialized bpmn-panel project at " ++ project.root.text)

def «show» (style : Style) (options : Options) (element : ElementId) : Run Action Unit := do
  let opened ← openSession style options element
  let view ← liftExcept opened.session.view
  style.result view.toJson view.display

def get (style : Style) (options : Options) (element : ElementId) (field : String) :
    Run Action Unit := do
  let opened ← openSession style options element
  let view ← liftExcept opened.session.view
  match view.field? field with
  | none => throw (.hiddenField field element)
  | some shown =>
      style.result
        (.object [("element", .text element), ("field", .text field),
          ("value", shown.value.toJson)])
        shown.value.display

/-- Nothing is written unless every assignment has been staged. -/
def set (style : Style) (options : Options) (element : ElementId)
    (assignments : List Assignment) : Run Action Unit := do
  let opened ← openSession style options element
  let (accepted, staged) := opened.session.stageAll element assignments
  for assignment in accepted do
    style.noteAbout "set"
      ("Staged " ++ assignment.field ++ "=" ++ Printable.quote assignment.raw)
  let (saved, notice) := (← liftExcept staged).save
  style.noteAbout "set" (toString saved.diagram.revision ++ " model update(s)")
  opened.store? saved
  match notice with
  | none => style.success "Nothing to save"
  | some notice =>
      if notice.isError then throw (.failedSave notice.message)
      else style.success notice.message

/-- The word for an element without a subtype. -/
def noSubtype : String := "-"

def showSubtype (style : Style) (options : Options) (element : ElementId) :
    Run Action Unit := do
  let opened ← openSession style options element
  let subtypes ← liftExcept opened.session.subtypes
  let selected := opened.session.panel.selectedSubtype
  style.result
    (.object [("element", .text element), ("subtype", (selected.map Json.text).getD .null),
      ("options", .texts subtypes)])
    (selected.getD noSubtype)
  unless style.isJson do
    style.noteAbout "type" ("Available: " ++ ", ".intercalate subtypes)

def switchSubtype (style : Style) (options : Options) (element : ElementId)
    (target : String) : Run Action Unit := do
  let opened ← openSession style options element
  let switched ← liftExcept (opened.session.switchTo element target)
  opened.store? switched
  style.success ("Switched " ++ element ++ " to " ++ target)

def locationRow (location : Location) : Json :=
  .object [("name", .text location.name), ("steps", .text location.display),
    ("attribute", .flag location.isAttribute)]

def locations (style : Style) (options : Options) : Run Action Unit := do
  let configuration ← configuration style options
  let locations := configuration.locations.values
  if style.isJson then
    Run.print (Json.list (locations.map locationRow)).compact
  else if locations.isEmpty then
    Run.print "No locations configured."
  else
    for location in locations do
      Run.print (location.name ++ "\t" ++ location.display)
    for warning in configuration.warnings do
      style.warning warning.message

/-- Settings that cannot be loaded leave the choice of the format to the standard settings. -/
def chooseFormat (options : Options) : Action OutputFormat :=
  match options.format with
  | some format => return format
  | none => do
      match ← (Settings.load : Workspace Action Settings).run with
      | .ok settings => return settings.user.format
      | .error _ => return UserSettings.standard.format

def perform (style : Style) (options : Options) : Command → Run Action Unit
  | .init path => do
      style.noteAbout "init" ("Initializing project at: " ++ path.text)
      init style path
  | .show element => «show» style options element
  | .get element field => get style options element field
  | .set element assignments => do
      style.noteAbout "set"
        (toString assignments.length ++ " assignment(s) for " ++ element)
      set style options element assignments
  | .subtype element none => showSubtype style options element
  | .subtype element (some target) => switchSubtype style options element target
  | .locations => locations style options

/-- The outcome of a request comes with everything that has been printed on the way. -/
def Request.execute (request : Request) : Action (Except CommandError Unit × Transcript) := do
  let style : Style := ⟨← chooseFormat request.options, request.options.verbose⟩
  let run : Run Action Unit := do
    style.note "bpmn-panel starting"
    perform style request.options request.command
  run.run.run .empty

end PropertyPanel.CommandLine

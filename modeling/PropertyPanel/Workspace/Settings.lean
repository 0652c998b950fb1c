/-
This file reads and writes the settings of users and projects.
-/

import PropertyPanel.Toml.Reader
import PropertyPanel.Toml.Writer
import PropertyPanel.Workspace.Failure

namespace PropertyPanel

inductive OutputFormat where
  | text
  | json
  deriving DecidableEq

namespace OutputFormat

def ofName? : String → Option OutputFormat
  | "text" => some text
  | "json" => some json
  | _ => none

/-- A format is given by its name or by a table that holds nothing but the name. -/
def ofToml? : Toml.Value → Option OutputFormat
  | .text name => ofName? name
  | .table _ [(name, .list [])] => ofName? name
  | .table _ [(name, .table _ [])] => ofName? name
  | _ => none

end OutputFormat

structure UserSettings where
  format : OutputFormat
  deriving DecidableEq

namespace UserSettings

def standard : UserSettings := ⟨.text⟩

def ofTable? (table : Toml.Table) : Option UserSettings :=
  match table.lookup "default_format" with
  | none => some standard
  | some value => (OutputFormat.ofToml? value).map UserSettings.mk

end UserSettings

/-- The files of a project are given relative to its root. -/
structure ProjectSettings where
  configuration : Option Path
  diagram : Option Path
  pretty : Bool
  deriving DecidableEq

namespace ProjectSettings

/-- Diagrams are written in the indented form unless a project says otherwise. -/
def standard : ProjectSettings := ⟨none, none, true⟩

/-- The outer option says whether the value, if there is one, is a text. -/
def path? (table : Toml.Table) (name : String) : Option (Option Path) :=
  match table.lookup name with
  | none => some none
  | some (.text text) => some (some ⟨text⟩)
  | some _ => none

def flag? (table : Toml.Table) (name : String) (default : Bool) : Option Bool :=
  match table.lookup name with
  | none => some default
  | some (.flag value) => some value
  | some _ => none

/-- Other names in the table have no meaning. -/
def ofTable? (table : Toml.Table) : Option ProjectSettings := do
  let configuration ← path? table "panel_config"
  let diagram ← path? table "diagram"
  let pretty ← flag? table "pretty" standard.pretty
  return ⟨configuration, diagram, pretty⟩

/-- An absent path is not written. -/
def text (settings : ProjectSettings) : String :=
  let line (name : String) (path : Option Path) : String :=
    (path.map fun path => Toml.textLine name path.text).getD ""
  line "panel_config" settings.configuration ++ line "diagram" settings.diagram ++
    Toml.flagLine "pretty" settings.pretty

end ProjectSettings

/-- The settings that are in force, with the root of the project they come from. -/
structure Settings where
  project : ProjectSettings
  user : UserSettings
  root : Option Path

namespace Settings

variable {Action : Type → Type} [Monad Action] [FileSystem Action]

/-- The directory for settings is set by a variable or lies in the home directory. -/
def userFile? : Action (Option Path) := do
  let chosen := (← FileSystem.environment? "XDG_CONFIG_HOME").map Path.mk
  let home := (← FileSystem.environment? "HOME").filter fun text => !text.isEmpty
  let directory? :=
    (chosen.filter Path.isAbsolute).orElse fun _ =>
      home.map fun text => (Path.mk text).child ".config"
  return directory?.map fun directory => (directory.child "bpmn-panel").child "config.toml"

/-- A settings file that is not there leaves the standard settings in force. -/
def loadFile {Value : Type} (path : Path) (standard : Value)
    (unreadable : SystemError → WorkspaceError) (malformed : WorkspaceError)
    (ofTable? : Toml.Table → Option Value) :
    Workspace Action Value := do
  if ← (FileSystem.isPresent path : Action Bool) then
    let text ← Workspace.demand (FileSystem.read path) unreadable
    match (Toml.parse? text).bind ofTable? with
    | some value => return value
    | none => throw malformed
  else return standard

def loadUser : Workspace Action UserSettings := do
  match ← (userFile? : Action (Option Path)) with
  | none => return .standard
  | some path =>
      loadFile path .standard (.unreadableUserSettings path) .malformedUserSettings
        UserSettings.ofTable?

def loadProject (root : Path) : Workspace Action ProjectSettings :=
  let path := root.child projectFileName
  loadFile path .standard (.unreadableProjectSettings path) .malformedProjectSettings
    ProjectSettings.ofTable?

/-- The nearest directory above a path that holds the settings of a project. -/
def findRoot? (start : Path) : Action (Option Path) :=
  start.withAncestors.findM? fun directory => FileSystem.isFile (directory.child projectFileName)

def forProject (root : Path) : Workspace Action Settings := do
  let user ← loadUser
  let project ← loadProject root
  return ⟨project, user, some root⟩

/-- The settings of the project around the working directory, if there is one. -/
def load : Workspace Action Settings := do
  let user ← loadUser
  let directory ← (FileSystem.workingDirectory : Action Path)
  match ← (findRoot? directory : Action (Option Path)) with
  | none => return ⟨.standard, user, none⟩
  | some root => return ⟨← loadProject root, user, some root⟩

def requireRoot (settings : Settings) : Except WorkspaceError Path :=
  match settings.root with
  | some root => .ok root
  | none => .error .notInProject

/-- A relative path has no meaning outside of a project. -/
def resolve? (settings : Settings) (path : Path) : Option Path :=
  if path.isAbsolute then some path else settings.root.map fun root => root.join path

def configurationPath? (settings : Settings) : Option Path :=
  settings.project.configuration.bind settings.resolve?

def diagramPath? (settings : Settings) : Option Path :=
  settings.project.diagram.bind settings.resolve?

def saveProject (settings : Settings) : Workspace Action Unit := do
  let root ← liftExcept settings.requireRoot
  let path := root.child projectFileName
  Workspace.demand (FileSystem.write path settings.project.text) (.unwritableProjectSettings path)

end Settings

end PropertyPanel

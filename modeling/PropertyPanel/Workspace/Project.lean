/-
This file opens projects and starts new ones.
-/

import PropertyPanel.Configuration.Builtin
import PropertyPanel.Text.PlainCase
import PropertyPanel.Workspace.DiagramStore
import PropertyPanel.Workspace.Sample
import PropertyPanel.Workspace.Settings

namespace PropertyPanel

namespace Configuration

variable {Action : Type → Type} [Monad Action] [FileSystem Action]

def yamlExtensions : List String := ["yaml", "yml"]

def isYaml (path : Path) : Bool :=
  (path.extension?.map fun extension => yamlExtensions.contains (plainLower extension)) = some true

/-- The extension of a file decides in which format it is read. -/
def loadFile (path : Path) : Workspace Action Configuration := do
  let text ← Workspace.demand (FileSystem.read path) (.unreadableConfiguration path)
  match if isYaml path then ofYamlText text else ofJsonText text with
  | .ok configuration => return configuration
  | .error error => throw (.malformedConfiguration path error)

def loadBuiltin : Workspace Action Configuration :=
  liftExcept (builtin.mapError WorkspaceError.malformedBuiltin)

end Configuration

/-- A project is a directory with settings. -/
structure Project where
  root : Path
  settings : Settings

namespace Project

def configurationFileName : String := "panel.json"

def diagramFileName : String := "diagram.json"

/-- A new project names the two files that are written beside its settings. -/
def initialSettings : ProjectSettings :=
  ⟨some ⟨configurationFileName⟩, some ⟨diagramFileName⟩, true⟩

variable {Action : Type → Type} [Monad Action] [FileSystem Action]

def openAt (root : Path) : Workspace Action Project := do
  if ← (FileSystem.isFile (root.child projectFileName) : Action Bool) then
    return ⟨root, ← Settings.forProject root⟩
  else throw .notInProject

/-- The project around the working directory, if there is one. -/
def current? : Workspace Action (Option Project) := do
  let directory ← (FileSystem.workingDirectory : Action Path)
  match ← (Settings.findRoot? directory : Action (Option Path)) with
  | none => return none
  | some root => return some (← openAt root)

/-- A file that is there is left alone. -/
def writeIfMissing (path : Path) (text : String) : Workspace Action Unit := do
  unless ← (FileSystem.isPresent path : Action Bool) do
    Workspace.demand (FileSystem.write path text) (.unwritableFile path)

/-- A directory becomes a project once. -/
def create (root : Path) : Workspace Action Project := do
  if ← (FileSystem.isPresent (root.child projectFileName) : Action Bool) then
    throw (.projectExists root)
  Workspace.demand (FileSystem.createDirectories root) (.uncreatableProject root)
  let settings := { ← Settings.forProject root with project := initialSettings }
  settings.saveProject
  writeIfMissing (root.child configurationFileName) Configuration.builtinText
  writeIfMissing (root.child diagramFileName) sampleDiagramText
  return ⟨root, settings⟩

def configuration (project : Project) : Workspace Action Configuration :=
  match project.settings.configurationPath? with
  | some path => Configuration.loadFile path
  | none => Configuration.loadBuiltin

def store (project : Project) : Except WorkspaceError DiagramStore :=
  match project.settings.diagramPath? with
  | some path => .ok ⟨path⟩
  | none => .error .noDiagram

end Project

end PropertyPanel

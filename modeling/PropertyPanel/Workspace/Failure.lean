/-
This file names the ways in which the files of a workspace can fail.
-/

import PropertyPanel.Configuration.Basic
import PropertyPanel.Files.System

namespace PropertyPanel

/-- The last link in a chain of causes may be a text that cannot be read. -/
inductive Cause where
  | plain (text : String)
  | configuration (error : ConfigurationError)
  | malformedSettings
  | malformedDocument
  deriving DecidableEq

def Cause.message : Cause → String
  | plain text => text
  | configuration error => error.message
  | malformedSettings => "Failed to parse configuration: the text does not define the settings"
  | malformedDocument => "the text is not a diagram document"

/-- The causes from the outermost to the innermost, in one line. -/
def Cause.line (causes : List Cause) : String := ": ".intercalate (causes.map message)

/-- The name of the file that makes a directory a project. -/
def projectFileName : String := "bpmn-panel.toml"

inductive WorkspaceError where
  | unreadableUserSettings (path : Path) (error : SystemError)
  | malformedUserSettings
  | unreadableProjectSettings (path : Path) (error : SystemError)
  | malformedProjectSettings
  | unwritableProjectSettings (path : Path) (error : SystemError)
  | notInProject
  | projectExists (root : Path)
  | noDiagram
  | uncreatableProject (root : Path) (error : SystemError)
  | unwritableFile (path : Path) (error : SystemError)
  | malformedBuiltin (error : ConfigurationError)
  | unreadableConfiguration (path : Path) (error : SystemError)
  | malformedConfiguration (path : Path) (error : ConfigurationError)
  | unreadableDiagram (path : Path) (error : SystemError)
  | unlockedDiagram (error : SystemError)
  | malformedDiagram (path : Path)
  | uncreatableDirectory (path : Path) (error : SystemError)
  | uncreatableDraft (path : Path) (error : SystemError)
  | unlockedDraft (error : SystemError)
  | unserializedDraft (error : SystemError)
  | unwrittenDraft (error : SystemError)
  | unflushedDraft (error : SystemError)
  | unmovableDraft (source path : Path) (error : SystemError)
  deriving DecidableEq

namespace WorkspaceError

def ofSystem (text : String) (error : SystemError) : List Cause :=
  [.plain text, .plain error.message]

def causes : WorkspaceError → List Cause
  | unreadableUserSettings path error =>
      ofSystem ("Failed to read global config: " ++ path.text) error
  | malformedUserSettings => [.plain "Failed to parse global config", .malformedSettings]
  | unreadableProjectSettings path error =>
      ofSystem ("Failed to read project config: " ++ path.text) error
  | malformedProjectSettings => [.plain "Failed to parse project config", .malformedSettings]
  | unwritableProjectSettings path error =>
      ofSystem ("Failed to write project config: " ++ path.text) error
  | notInProject => [.plain "Not in a bpmn-panel project. Run 'bpmn-panel init' first."]
  | projectExists root => [.plain ("Project already exists at " ++ root.text)]
  | noDiagram =>
      [.plain ("Project does not name a diagram. Set 'diagram' in " ++ projectFileName)]
  | uncreatableProject root error =>
      ofSystem ("Failed to create project directory: " ++ root.text) error
  | unwritableFile path error => ofSystem ("Failed to write " ++ path.text) error
  | malformedBuiltin error =>
      [.plain "Failed to load built-in panel config", .configuration error]
  | unreadableConfiguration path error =>
      ofSystem ("Failed to read panel config: " ++ path.text) error
  | malformedConfiguration path error =>
      [.plain ("Failed to load panel config: " ++ path.text), .configuration error]
  | unreadableDiagram path error => ofSystem ("Failed to open diagram: " ++ path.text) error
  | unlockedDiagram error => ofSystem "Failed to acquire read lock on diagram" error
  | malformedDiagram path =>
      [.plain ("Failed to parse diagram: " ++ path.text), .malformedDocument]
  | uncreatableDirectory path error =>
      ofSystem ("Failed to create directory: " ++ path.text) error
  | uncreatableDraft path error => ofSystem ("Failed to create temp file: " ++ path.text) error
  | unlockedDraft error => ofSystem "Failed to acquire write lock on diagram" error
  | unserializedDraft error => ofSystem "Failed to serialize diagram" error
  | unwrittenDraft error => ofSystem "Failed to write diagram" error
  | unflushedDraft error => ofSystem "Failed to flush diagram" error
  | unmovableDraft source path error =>
      ofSystem ("Failed to rename " ++ source.text ++ " to " ++ path.text) error

end WorkspaceError

/-- A computation on the files of a workspace. -/
abbrev Workspace (Action : Type → Type) (Value : Type) : Type :=
  ExceptT WorkspaceError Action Value

/-- A refusal of the system becomes a failure of the workspace. -/
def Workspace.demand {Action : Type → Type} [Monad Action] {Value Refusal : Type}
    (operation : Action (Except Refusal Value)) (wrap : Refusal → WorkspaceError) :
    Workspace Action Value :=
  ExceptT.mk do
    match ← operation with
    | .ok value => return .ok value
    | .error error => return .error (wrap error)

end PropertyPanel

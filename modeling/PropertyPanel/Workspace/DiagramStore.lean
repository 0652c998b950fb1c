/-
This file reads and writes diagram documents.
-/

import PropertyPanel.Diagram.Document
import PropertyPanel.Json.Reader
import PropertyPanel.Json.Writer
import PropertyPanel.Workspace.Failure

namespace PropertyPanel

/-- A store keeps one diagram document in one file. -/
structure DiagramStore where
  path : Path
  deriving DecidableEq

namespace DiagramStore

variable {Action : Type → Type} [Monad Action] [FileSystem Action]

/-- A file that can be opened and locked but not read is as bad as one without a document. -/
def loadFailure (store : DiagramStore) (refusal : LockedError ReadStep) : WorkspaceError :=
  match refusal.step with
  | .opening => .unreadableDiagram store.path refusal.error
  | .locking => .unlockedDiagram refusal.error
  | .transfer => .malformedDiagram store.path

def load (store : DiagramStore) : Workspace Action DiagramDocument := do
  let text ← Workspace.demand (FileSystem.readLocked store.path) store.loadFailure
  match DiagramDocument.ofText? text with
  | some document => return document
  | none => throw (.malformedDiagram store.path)

def text (document : DiagramDocument) (pretty : Bool) : String :=
  if pretty then document.toJson.indented else document.toJson.compact

/-- The draft of a document is written beside its file. -/
def draftPath (store : DiagramStore) : Path := store.path.withExtension "json.tmp"

def saveFailure (store : DiagramStore) (refusal : LockedError WriteStep) : WorkspaceError :=
  match refusal.step with
  | .opening => .uncreatableDraft store.draftPath refusal.error
  | .locking => .unlockedDraft refusal.error
  | .transfer => .unserializedDraft refusal.error
  | .lineBreak => .unwrittenDraft refusal.error
  | .flush => .unflushedDraft refusal.error

/-- The document is complete before it takes the place of the old one. -/
def save (store : DiagramStore) (document : DiagramDocument) (pretty : Bool) :
    Workspace Action Unit := do
  match store.path.parent? with
  | none => pure ()
  | some parent =>
      Workspace.demand (FileSystem.createDirectories parent) (.uncreatableDirectory parent)
  let draft := store.draftPath
  Workspace.demand (FileSystem.writeLocked draft (text document pretty)) store.saveFailure
  Workspace.demand (FileSystem.move draft store.path) (.unmovableDraft draft store.path)

end DiagramStore

end PropertyPanel

/-
This file defines what commands print and how they fail.
-/

import PropertyPanel.CommandLine.Request
import PropertyPanel.Diagram.Registry
import PropertyPanel.Form.Value
import PropertyPanel.Json.Writer

namespace PropertyPanel.CommandLine

inductive CommandError where
  | workspace (error : WorkspaceError)
  | noDiagram
  | unknownElement (element : String)
  | nothingToShow
  | hiddenField (field element : String)
  | readonlyField (field : String)
  | invalidValue (field : String) (error : InputError)
  | failedSave (message : String)
  | withoutSubtypes (element : String)
  | unknownSubtype (element subtype : String) (options : List String)
  | failedSwitch (element subtype : String) (error : ApplyError)
  deriving DecidableEq

namespace CommandError

def causes : CommandError → List Cause
  | workspace error => error.causes
  | noDiagram => [.plain "No diagram given. Pass --diagram or run 'bpmn-panel init' first."]
  | unknownElement element => [.plain ("Element not found: " ++ element)]
  | nothingToShow => [.plain "Nothing to show for the selected element"]
  | hiddenField field element =>
      [.plain ("Field '" ++ field ++ "' is not shown for " ++ element)]
  | readonlyField field => [.plain ("Field '" ++ field ++ "' is read-only")]
  | invalidValue field error =>
      [.plain ("Invalid value for '" ++ field ++ "'"), .plain error.message]
  | failedSave message => [.plain message]
  | withoutSubtypes element => [.plain ("Element " ++ element ++ " has no subtypes")]
  | unknownSubtype element subtype options =>
      [.plain ("Unknown subtype '" ++ subtype ++ "' for " ++ element ++ ". Available: " ++
        ", ".intercalate options)]
  | failedSwitch element subtype error =>
      [.plain ("Failed to switch " ++ element ++ " to " ++ subtype), .plain error.message]

end CommandError

/-- The texts that a command has printed on its two outputs. -/
structure Transcript where
  output : String
  diagnostics : String
  deriving DecidableEq

namespace Transcript

def empty : Transcript := ⟨"", ""⟩

def addOutput (line : String) (transcript : Transcript) : Transcript :=
  { transcript with output := transcript.output ++ line ++ "\n" }

def addDiagnostic (line : String) (transcript : Transcript) : Transcript :=
  { transcript with diagnostics := transcript.diagnostics ++ line ++ "\n" }

end Transcript

/-- A failed command keeps what it has printed. -/
abbrev Run (Action : Type → Type) (Value : Type) : Type :=
  ExceptT CommandError (StateT Transcript Action) Value

/-- The style in which a command reports. -/
structure Style where
  format : OutputFormat
  verbose : Bool

namespace Run

variable {Action : Type → Type} [Monad Action]

def ofWorkspace {Value : Type} (work : Workspace Action Value) : Run Action Value :=
  ExceptT.mk do return (← work.run).mapError .workspace

def print (line : String) : Run Action Unit := modify (Transcript.addOutput line)

def complain (line : String) : Run Action Unit := modify (Transcript.addDiagnostic line)

end Run

namespace Style

variable {Action : Type → Type} [Monad Action]

def isJson (style : Style) : Bool := style.format = .json

def note (style : Style) (line : String) : Run Action Unit :=
  if style.verbose then Run.complain ("[verbose] " ++ line) else pure ()

def noteAbout (style : Style) (subject line : String) : Run Action Unit :=
  if style.verbose then Run.complain ("[verbose:" ++ subject ++ "] " ++ line) else pure ()

def success (style : Style) (message : String) : Run Action Unit :=
  match style.format with
  | .text => Run.print message
  | .json =>
      Run.print (Json.object [("success", .flag true), ("message", .text message)]).compact

def warning (style : Style) (message : String) : Run Action Unit :=
  match style.format with
  | .text => Run.complain ("Error: " ++ message)
  | .json =>
      Run.complain (Json.object [("success", .flag false), ("error", .text message)]).compact

/-- A result is written as data or in words. -/
def result (style : Style) (data : Json) (words : String) : Run Action Unit :=
  Run.print (if style.isJson then data.compact else words)

end Style

end PropertyPanel.CommandLine

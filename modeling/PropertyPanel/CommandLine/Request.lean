/-
This file defines what a command line can ask for and why it may be refused.
-/

import PropertyPanel.Workspace.Settings

namespace PropertyPanel

namespace CommandLine

/-- An assignment gives a field the text of its new value. -/
structure Assignment where
  field : String
  raw : String
  deriving DecidableEq

inductive AssignmentError where
  | missingSign (raw : String)
  | missingField (raw : String)
  deriving DecidableEq

def AssignmentError.message : AssignmentError → String
  | missingSign raw => "Expected FIELD=VALUE, got '" ++ raw ++ "'"
  | missingField raw => "Missing field name in '" ++ raw ++ "'"

/-- The first sign of equality ends the name of the field. -/
def Assignment.parse (raw : String) : Except AssignmentError Assignment :=
  let characters := raw.toList
  match characters.dropWhile (· ≠ '=') with
  | [] => .error (.missingSign raw)
  | _ :: value =>
      let field := String.ofList (characters.takeWhile (· ≠ '='))
      if field.isEmpty then .error (.missingField raw) else .ok ⟨field, String.ofList value⟩

inductive Command where
  | init (path : Path)
  | show (element : String)
  | get (element field : String)
  | set (element : String) (assignments : List Assignment)
  | subtype (element : String) (target : Option String)
  | locations
  deriving DecidableEq

/-- The options that every command understands. -/
structure Options where
  format : Option OutputFormat
  verbose : Bool
  configuration : Option Path
  diagram : Option Path
  deriving DecidableEq

namespace Options

def none : Options := ⟨.none, false, .none, .none⟩

/-- An option that is given nearer to the end counts. -/
def override (outer inner : Options) : Options :=
  ⟨inner.format.orElse fun _ => outer.format, outer.verbose || inner.verbose,
    inner.configuration.orElse fun _ => outer.configuration,
    inner.diagram.orElse fun _ => outer.diagram⟩

end Options

structure Request where
  options : Options
  command : Command
  deriving DecidableEq

/-- A command line without a request asks for a text about itself or is mistaken. -/
inductive UsageError where
  | help
  | version
  | noArguments
  | missingCommand
  | unknownCommand (name : String)
  | missingArgument
  | invalidValue
  | superfluousValue
  | unknownArgument (argument : String)
  | repeatedOption
  | malformedAssignment (error : AssignmentError)
  deriving DecidableEq

namespace UsageError

/-- It is no failure to ask for a text. -/
def exitCode : UsageError → Nat
  | help => 0
  | version => 0
  | _ => 2

def message : UsageError → String
  | help => "Usage: bpmn-panel [OPTIONS] <COMMAND>"
  | version => "bpmn-panel 0.1.0"
  | noArguments => "Usage: bpmn-panel [OPTIONS] <COMMAND>"
  | missingCommand => "a command is required"
  | unknownCommand name => "unrecognized command '" ++ name ++ "'"
  | missingArgument => "a required argument is missing"
  | invalidValue => "an option has no valid value"
  | superfluousValue => "an option that takes no value has one"
  | unknownArgument argument => "unexpected argument '" ++ argument ++ "'"
  | repeatedOption => "an option is given more than once"
  | malformedAssignment error => error.message

end UsageError

end CommandLine

end PropertyPanel

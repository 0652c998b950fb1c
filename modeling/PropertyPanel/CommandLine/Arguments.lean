/-
This file reads the arguments of a command line as a request.
-/

import PropertyPanel.CommandLine.Request

namespace PropertyPanel.CommandLine

/-- The variable that stands in for the option `--config`. -/
def configurationVariable : String := "BPMN_PANEL_CONFIG"

/-- The variable that stands in for the option `--diagram`. -/
def diagramVariable : String := "BPMN_PANEL_DIAGRAM"

/-- An option either is a flag or takes a value. -/
inductive OptionName where
  | format
  | verbose
  | configuration
  | diagram
  | help
  | version
  deriving DecidableEq

namespace OptionName

def ofLong? : String → Option OptionName
  | "format" => some format
  | "verbose" => some verbose
  | "config" => some configuration
  | "diagram" => some diagram
  | "help" => some help
  | "version" => some version
  | _ => none

def ofShort? : Char → Option OptionName
  | 'f' => some format
  | 'v' => some verbose
  | 'c' => some configuration
  | 'd' => some diagram
  | 'h' => some help
  | 'V' => some version
  | _ => none

def takesValue : OptionName → Bool
  | format => true
  | configuration => true
  | diagram => true
  | _ => false

end OptionName

inductive CommandName where
  | init
  | show
  | get
  | set
  | subtype
  | locations
  deriving DecidableEq

namespace CommandName

def ofText? : String → Option CommandName
  | "init" => some init
  | "show" => some .show
  | "get" => some get
  | "set" => some set
  | "type" => some subtype
  | "locations" => some locations
  | _ => none

/-- The word in place of a command that asks for help. -/
def helpWord : String := "help"

/-- The greatest number of words after a command, where a list of assignments has no end. -/
def capacity? : CommandName → Option Nat
  | init => some 1
  | .show => some 1
  | get => some 2
  | set => none
  | subtype => some 2
  | locations => some 0

end CommandName

/-- An argument is an option, a row of options, or a word. -/
inductive Argument where
  | endOfOptions
  | long (name : String) (value : Option String)
  | short (letters : List Char)
  | word (text : String)

/-- A lone dash is a word. -/
def Argument.ofText (text : String) : Argument :=
  match text.toList with
  | ['-', '-'] => endOfOptions
  | '-' :: '-' :: rest =>
      let name := String.ofList (rest.takeWhile (· ≠ '='))
      match rest.dropWhile (· ≠ '=') with
      | [] => long name none
      | _ :: value => long name (some (String.ofList value))
  | '-' :: first :: rest => short (first :: rest)
  | _ => word text

/-- A value is checked when the next argument shows that it is complete. -/
structure Waiting where
  name : OptionName
  value : Option String

/-- A level is the command line before a command or after it. -/
structure Level where
  command : Option CommandName
  options : Options
  waiting : Option Waiting
  words : List String
  onlyWords : Bool

namespace Level

def start (command : Option CommandName) : Level := ⟨command, .none, none, [], false⟩

def path? (text : String) : Except UsageError Path :=
  if text.isEmpty then .error .invalidValue else .ok ⟨text⟩

/-- An option is given once on each level. -/
def record (options : Options) (name : OptionName) (value : Option String) :
    Except UsageError Options := do
  let some value := value | throw .invalidValue
  match name with
  | .format =>
      if options.format.isSome then throw .repeatedOption
      match OutputFormat.ofName? value with
      | some format => return { options with format := some format }
      | none => throw .invalidValue
  | .configuration =>
      if options.configuration.isSome then throw .repeatedOption
      return { options with configuration := some (← path? value) }
  | .diagram =>
      if options.diagram.isSome then throw .repeatedOption
      return { options with diagram := some (← path? value) }
  | _ => return options

def settleOption (level : Level) : Except UsageError Level :=
  match level.waiting with
  | none => .ok level
  | some waiting => do
      let options ← record level.options waiting.name waiting.value
      return { level with options, waiting := none }

/-- The words after the first one are assignments if the command takes any. -/
def assignments (level : Level) : Except UsageError (List Assignment) :=
  if level.command = some .set then
    (level.words.drop 1).mapM fun raw => (Assignment.parse raw).mapError .malformedAssignment
  else .ok []

def settle (level : Level) : Except UsageError Level := do
  let _ ← level.assignments
  level.settleOption

def isAwaitingValue (level : Level) : Bool :=
  match level.waiting with
  | some waiting => waiting.value.isNone && !level.onlyWords
  | none => false

def applyFlag (level : Level) (name : OptionName) : Except UsageError Level := do
  let level ← level.settle
  match name with
  | .help => throw .help
  | .version => throw .version
  | .verbose =>
      if level.options.verbose then throw .repeatedOption
      return { level with options := { level.options with verbose := true } }
  | _ => return level

def applyValue (level : Level) (name : OptionName) (value : String) : Except UsageError Level := do
  let level ← level.settle
  return { level with options := ← record level.options name (some value) }

def awaitValue (level : Level) (name : OptionName) : Except UsageError Level := do
  return { ← level.settle with waiting := some ⟨name, none⟩ }

def applyLong (level : Level) (name : String) (value : Option String) : Except UsageError Level :=
  match OptionName.ofLong? name, value with
  | none, _ => .error (.unknownArgument ("--" ++ name))
  | some known, some value =>
      if known.takesValue then level.applyValue known value else .error .superfluousValue
  | some known, none => if known.takesValue then level.awaitValue known else level.applyFlag known

/-- The letters after an option that takes a value are its value. -/
def applyShort (level : Level) : List Char → Except UsageError Level
  | [] => .ok level
  | letter :: rest =>
      match OptionName.ofShort? letter with
      | none => .error (.unknownArgument (String.ofList ['-', letter]))
      | some known =>
          if known.takesValue then
            match rest with
            | [] => level.awaitValue known
            | '=' :: value => level.applyValue known (String.ofList value)
            | value => level.applyValue known (String.ofList value)
          else do applyShort (← level.applyFlag known) rest

/-- A word is the value of an option that waits for one, or it belongs to the command. -/
def applyWord (level : Level) (text : String) : Except UsageError Level :=
  match level.waiting with
  | some ⟨name, none⟩ =>
      if level.onlyWords then .error .invalidValue
      else .ok { level with waiting := some ⟨name, some text⟩ }
  | _ => do
      let level ← level.settleOption
      return { level with words := level.words ++ [text] }

def hasRoom (level : Level) : Bool :=
  match level.command.map CommandName.capacity? with
  | none => false
  | some none => true
  | some (some capacity) => level.words.length < capacity

/-- Before a command, a word that names no command is refused as an unknown command. -/
def refuseWord (level : Level) (text : String) : UsageError :=
  let isCommand := (CommandName.ofText? text).isSome || text = CommandName.helpWord
  if level.command.isNone && !(level.onlyWords && isCommand) then .unknownCommand text
  else .unknownArgument text

def step (level : Level) (text : String) : Except UsageError Level :=
  let place (text : String) : Except UsageError Level :=
    if level.isAwaitingValue || level.hasRoom then level.applyWord text
    else .error (level.refuseWord text)
  if level.onlyWords then place text
  else
    match Argument.ofText text with
    | .endOfOptions => .ok { level with onlyWords := true }
    | .long name value => level.applyLong name value
    | .short letters => level.applyShort letters
    | .word text => place text

/-- Variables stand in for options that are not given, and they may not be empty. -/
def complete (environment : String → Option String) (level : Level) :
    Except UsageError (Level × Options) := do
  let level ← level.settle
  let configuration ← (environment configurationVariable).mapM path?
  let diagram ← (environment diagramVariable).mapM path?
  return (level, { Options.none with configuration, diagram })

end Level

/-- The path of a new project is the working directory unless another one is given. -/
def defaultPath : Path := ⟨"."⟩

def Level.toCommand (level : Level) : Except UsageError Command := do
  match level.command, level.words with
  | some .init, [] => return .init defaultPath
  | some .init, path :: _ => return .init ⟨path⟩
  | some .show, element :: _ => return .show element
  | some .get, element :: field :: _ => return .get element field
  | some .set, element :: _ :: _ => return .set element (← level.assignments)
  | some .subtype, [element] => return .subtype element none
  | some .subtype, element :: target :: _ => return .subtype element (some target)
  | some .locations, _ => return .locations
  | _, _ => throw .missingArgument

/-- Help can be asked for on a single command. -/
def askHelp : List String → UsageError
  | [] => .help
  | [name] =>
      if (CommandName.ofText? name).isSome || name = CommandName.helpWord then .help
      else .unknownCommand name
  | first :: second :: _ =>
      if (CommandName.ofText? first).isSome || first = CommandName.helpWord then
        .unknownCommand second
      else .unknownCommand first

/-- A variable counts only where no level gives the option. -/
def combine (outer inner : Level) (defaults : Options) : Options :=
  let given := outer.options.override inner.options
  { given with
    configuration := given.configuration.orElse fun _ => defaults.configuration
    diagram := given.diagram.orElse fun _ => defaults.diagram }

/-- What comes after a command is checked before what comes before it. -/
def Request.ofLevels (environment : String → Option String) (outer inner : Level) :
    Except UsageError Request := do
  let (inner, defaults) ← inner.complete environment
  let command ← inner.toCommand
  let (outer, _) ← outer.complete environment
  return ⟨combine outer inner defaults, command⟩

/-- Without a command, options and variables alone are not enough. -/
def refuseLevel (environment : String → Option String) (level : Level) : UsageError :=
  match level.complete environment with
  | .error error => error
  | .ok (level, defaults) =>
      if combine level (Level.start none) defaults = .none then .noArguments else .missingCommand

def Request.parseFrom (environment : String → Option String) (level : Level) :
    List String → Except UsageError Request
  | [] => .error (refuseLevel environment level)
  | text :: rest => do
      let named :=
        if level.onlyWords || level.isAwaitingValue then none else CommandName.ofText? text
      match named with
      | some command =>
          let inner ← rest.foldlM Level.step (Level.start (some command))
          Request.ofLevels environment level inner
      | none =>
          if text = CommandName.helpWord && !level.onlyWords && !level.isAwaitingValue then
            throw (askHelp rest)
          else parseFrom environment (← level.step text) rest

/-- The request of the arguments and of the variables that stand in for options. -/
def Request.parse (environment : String → Option String) (arguments : List String) :
    Except UsageError Request :=
  Request.parseFrom environment (.start none) arguments

end PropertyPanel.CommandLine

/-
This file runs the command line on the files of the system.
-/

import PropertyPanel.CommandLine.Arguments
import PropertyPanel.CommandLine.Commands

namespace PropertyPanel

/-- The system may report the negative of the number of a refusal. -/
def SystemError.ofNumber (number : UInt32) (text : String) : SystemError :=
  let size := number.toNat
  let size := if size < Nat.pow 2 31 then size else Nat.pow 2 32 - size
  (SystemError.common.find? fun error => error.number = size).getD ⟨text, size⟩

def SystemError.ofFailure : IO.Error → SystemError
  | .noFileOrDirectory _ number text => ofNumber number text
  | .permissionDenied _ number text => ofNumber number text
  | .alreadyExists _ number text => ofNumber number text
  | .inappropriateType _ number text => ofNumber number text
  | .invalidArgument _ number text => ofNumber number text
  | .resourceExhausted _ number text => ofNumber number text
  | .noSuchThing _ number text => ofNumber number text
  | .resourceBusy number text => ofNumber number text
  | .otherError number text => ofNumber number text
  | error => ⟨toString error, 0⟩

def attempt {Value : Type} (operation : IO Value) : IO (Except SystemError Value) := do
  match ← operation.toBaseIO with
  | .ok value => return .ok value
  | .error error => return .error (SystemError.ofFailure error)

/-- A step of an access to a locked file ends the access if it is refused. -/
def attemptStep {Step Value : Type} (step : Step) (operation : IO Value) :
    ExceptT (LockedError Step) IO Value :=
  ExceptT.mk do return (← attempt operation).mapError (LockedError.mk step)

/-- Other readers share the lock, which ends with the use of the file. -/
def readLocked (path : Path) : ExceptT (LockedError ReadStep) IO String := do
  let file ← attemptStep .opening (IO.FS.Handle.mk path.text .read)
  attemptStep .locking (file.lock false)
  attemptStep .transfer file.readToEnd

def writeLocked (path : Path) (text : String) : ExceptT (LockedError WriteStep) IO Unit := do
  let file ← attemptStep .opening (IO.FS.Handle.mk path.text .write)
  attemptStep .locking file.lock
  attemptStep .transfer (file.putStr text)
  attemptStep .lineBreak (file.putStr "\n")
  attemptStep .flush file.flush

instance : FileSystem IO where
  workingDirectory := return ⟨(← IO.currentDir).toString⟩
  environment? name := IO.getEnv name
  read path := attempt (IO.FS.readFile path.text)
  write path content := attempt (IO.FS.writeFile path.text content)
  readLocked path := (readLocked path).run
  writeLocked path text := (writeLocked path text).run
  createDirectory path := attempt (IO.FS.createDir path.text)
  move source path := attempt (IO.FS.rename source.text path.text)

/-- The texts of a transcript go to the two outputs. -/
def printTranscript (transcript : CommandLine.Transcript) : IO Unit := do
  IO.print transcript.output
  IO.eprint transcript.diagnostics

def runRequest (request : CommandLine.Request) : IO UInt32 := do
  let (outcome, transcript) ← request.execute
  printTranscript transcript
  match outcome with
  | .ok () => return 0
  | .error error =>
      IO.eprintln ("Error: " ++ Cause.line error.causes)
      return 1

end PropertyPanel

open PropertyPanel

def main (arguments : List String) : IO UInt32 := do
  let configuration ← IO.getEnv CommandLine.configurationVariable
  let diagram ← IO.getEnv CommandLine.diagramVariable
  let environment (name : String) : Option String :=
    if name = CommandLine.configurationVariable then configuration
    else if name = CommandLine.diagramVariable then diagram
    else none
  match CommandLine.Request.parse environment arguments with
  | .ok request => runRequest request
  | .error error =>
      if error.exitCode = 0 then IO.println error.message
      else IO.eprintln ("error: " ++ error.message)
      return error.exitCode.toUInt32

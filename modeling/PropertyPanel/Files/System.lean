/-
This file defines what a program needs from the system that keeps its files.
-/

import PropertyPanel.Files.Path

namespace PropertyPanel

/-- A refusal of the system has a number and a text. -/
structure SystemError where
  text : String
  number : Nat
  deriving DecidableEq

namespace SystemError

def missing : SystemError := ⟨"No such file or directory", 2⟩

def busy : SystemError := ⟨"Device or resource busy", 16⟩

def occupied : SystemError := ⟨"File exists", 17⟩

def notDirectory : SystemError := ⟨"Not a directory", 20⟩

def isDirectory : SystemError := ⟨"Is a directory", 21⟩

def permissionDenied : SystemError := ⟨"Permission denied", 13⟩

/-- The refusals that programs meet most. -/
def common : List SystemError :=
  [missing, permissionDenied, busy, occupied, notDirectory, isDirectory]

def message (error : SystemError) : String :=
  error.text ++ " (os error " ++ toString error.number ++ ")"

end SystemError

/-- The steps of a read of a file that is locked against writers. -/
inductive ReadStep where
  | opening
  | locking
  | transfer
  deriving DecidableEq

/-- The steps of a write to a file that is locked against all other programs. -/
inductive WriteStep where
  | opening
  | locking
  | transfer
  | lineBreak
  | flush
  deriving DecidableEq

/-- The system refuses an access to a locked file at one of its steps. -/
structure LockedError (Step : Type) where
  step : Step
  error : SystemError
  deriving DecidableEq

/-- The files are read and changed only through these operations. -/
class FileSystem (Action : Type → Type) where
  /-- The directory in which relative paths are looked for. -/
  workingDirectory : Action Path
  environment? : String → Action (Option String)
  read : Path → Action (Except SystemError String)
  /-- A file is created or its content is replaced. -/
  write : Path → String → Action (Except SystemError Unit)
  /-- The content of a file that no other program can write at the same time. -/
  readLocked : Path → Action (Except (LockedError ReadStep) String)
  /-- A file that no other program can use at the same time gets a text and a line break. -/
  writeLocked : Path → String → Action (Except (LockedError WriteStep) Unit)
  createDirectory : Path → Action (Except SystemError Unit)
  /-- A file takes the place of another one. -/
  move : Path → Path → Action (Except SystemError Unit)

namespace FileSystem

variable {Action : Type → Type} [Monad Action] [FileSystem Action]

def isFile (path : Path) : Action Bool := do
  match ← read path with
  | .ok _ => return true
  | .error _ => return false

def isDirectory (path : Path) : Action Bool := do
  match ← read path with
  | .ok _ => return false
  | .error error => return error = .isDirectory

/-- A path that leads to something need not be readable. -/
def isPresent (path : Path) : Action Bool := do
  match ← read path with
  | .ok _ => return true
  | .error error => return error ≠ .missing ∧ error ≠ .notDirectory

/-- The last path is created unless it is a directory. -/
def ensureDirectory (path : Path) : Action (Except SystemError Unit) := do
  match ← createDirectory path with
  | .ok () => return .ok ()
  | .error error => if ← isDirectory path then return .ok () else return .error error

/-- Missing directories are created from the top down. -/
def ensureDirectories : List Path → Action (Except SystemError Unit)
  | [] => return .error .missing
  | path :: above => do
      match ← ensureDirectory path with
      | .ok () => return .ok ()
      | .error error =>
          if error = .missing then
            match ← ensureDirectories above with
            | .ok () => ensureDirectory path
            | .error error => return .error error
          else return .error error

/-- The empty path stands for the working directory, which is there. -/
def createDirectories (path : Path) : Action (Except SystemError Unit) :=
  if path.text.isEmpty then return .ok () else ensureDirectories path.withAncestors

end FileSystem

end PropertyPanel

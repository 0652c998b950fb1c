/-
This file defines a tree of files that is kept in memory.
-/

import PropertyPanel.Dictionary
import PropertyPanel.Files.System

namespace PropertyPanel

inductive FileEntry where
  | directory
  | file (content : String)
  deriving DecidableEq

/-- A location is the list of names that leads from the root to an entry. -/
abbrev FileLocation := List String

/-- The tree comes with the directory that is worked in and the variables that are set. -/
structure FileTree where
  entries : Dictionary FileLocation FileEntry
  directory : FileLocation
  environment : Dictionary String String

namespace FileTree

/-- The root is always a directory. -/
def entry? (tree : FileTree) (location : FileLocation) : Option FileEntry :=
  if location.isEmpty then some .directory else tree.entries.find? location

def isDirectory (tree : FileTree) (location : FileLocation) : Bool :=
  tree.entry? location = some .directory

def put (tree : FileTree) (location : FileLocation) (entry : FileEntry) : FileTree :=
  { tree with entries := tree.entries.insert location entry }

def remove (tree : FileTree) (location : FileLocation) : FileTree :=
  { tree with entries := tree.entries.filter fun entry => entry.1 ≠ location }

/-- An entry is added with all directories above it. -/
def plant (tree : FileTree) (location : FileLocation) (entry : FileEntry) : FileTree :=
  let above := (List.range location.length).map location.take
  (above.foldl (fun tree directory =>
    if (tree.entry? directory).isSome then tree else tree.put directory .directory) tree).put
    location entry

/-- Names are followed only from directories. -/
def walk (tree : FileTree) (location : FileLocation) :
    List String → Except SystemError FileLocation
  | [] => .ok location
  | name :: rest =>
      if !tree.isDirectory location then .error .notDirectory
      else if Path.isBlankName name then walk tree location rest
      else if name = ".." then walk tree location.dropLast rest
      else if (tree.entry? (location ++ [name])).isSome then walk tree (location ++ [name]) rest
      else .error .missing

def origin (tree : FileTree) (path : Path) : FileLocation :=
  if path.isAbsolute then [] else tree.directory

def locate (tree : FileTree) (path : Path) : Except SystemError FileLocation :=
  if path.text.isEmpty then .error .missing
  else tree.walk (tree.origin path) (Path.split path.text.toList)

/-- A path to create something at ends in a new name, or it leads to a directory. -/
inductive Target where
  | name (location : FileLocation) (slashed : Bool)
  | directory

/-- The last name of a target need not exist. -/
def target (tree : FileTree) (path : Path) : Except SystemError Target :=
  if path.text.isEmpty then .error .missing
  else
    let names := Path.split path.text.toList
    let slashed := names.getLast? = some ""
    match names.reverse.dropWhile String.isEmpty with
    | [] => .ok .directory
    | last :: above => do
        let location ← tree.walk (tree.origin path) above.reverse
        if !tree.isDirectory location then .error .notDirectory
        else if last = "." || last = ".." then .ok .directory
        else .ok (.name (location ++ [last]) slashed)

def read (tree : FileTree) (path : Path) : Except SystemError String := do
  let location ← tree.locate path
  match tree.entry? location with
  | some (.file content) => .ok content
  | some .directory => .error .isDirectory
  | none => .error .missing

def write (tree : FileTree) (path : Path) (content : String) : Except SystemError FileTree := do
  match ← tree.target path with
  | .directory => .error .isDirectory
  | .name location slashed =>
      if slashed || tree.isDirectory location then .error .isDirectory
      else .ok (tree.put location (.file content))

def createDirectory (tree : FileTree) (path : Path) : Except SystemError FileTree := do
  match ← tree.target path with
  | .directory => .error .occupied
  | .name location _ =>
      if (tree.entry? location).isSome then .error .occupied
      else .ok (tree.put location .directory)

/-- Only files are moved, and no directory gives way to a file. -/
def move (tree : FileTree) (source path : Path) : Except SystemError FileTree := do
  let start ← tree.target source
  let finish ← tree.target path
  match start, finish with
  | .directory, _ => .error .busy
  | _, .directory => .error .busy
  | .name start startSlashed, .name finish finishSlashed =>
      match tree.entry? start with
      | none => .error .missing
      | some .directory => .error .isDirectory
      | some (.file content) =>
          if startSlashed || finishSlashed then .error .notDirectory
          else if tree.isDirectory finish then .error .isDirectory
          else .ok ((tree.remove start).put finish (.file content))

/-- A directory can be opened and locked, but it has no content. No other program uses the tree, so
that no lock is refused. -/
def readLocked (tree : FileTree) (path : Path) : Except (LockedError ReadStep) String :=
  (tree.read path).mapError fun error =>
    ⟨if error = .isDirectory then .transfer else .opening, error⟩

/-- Once a file is opened nothing refuses its new content. -/
def writeLocked (tree : FileTree) (path : Path) (text : String) :
    Except (LockedError WriteStep) FileTree :=
  (tree.write path (text ++ "\n")).mapError (LockedError.mk .opening)

/-- A refused change leaves the tree as it was. -/
def change {Refusal : Type} (operation : FileTree → Except Refusal FileTree) :
    StateM FileTree (Except Refusal Unit) :=
  modifyGet fun tree =>
    match operation tree with
    | .ok changed => (.ok (), changed)
    | .error error => (.error error, tree)

instance : FileSystem (StateM FileTree) where
  workingDirectory := return ⟨"/" ++ "/".intercalate (← get).directory⟩
  environment? name := return (← get).environment.find? name
  read path := return (← get).read path
  write path content := change (·.write path content)
  readLocked path := return (← get).readLocked path
  writeLocked path text := change (·.writeLocked path text)
  createDirectory path := change (·.createDirectory path)
  move source path := change (·.move source path)

end FileTree

end PropertyPanel

/-
This file defines paths as texts whose names are separated by slashes.
-/

namespace PropertyPanel

/-- A path keeps its text, in which blank names are allowed. -/
structure Path where
  text : String
  deriving DecidableEq

namespace Path

def isAbsolute (path : Path) : Bool := path.text.toList.head? = some '/'

/-- The start of a path is no name but says where its names are looked for. -/
def anchor (path : Path) : String :=
  match path.text.toList with
  | '/' :: _ => "/"
  | ['.'] => "."
  | '.' :: '/' :: _ => "."
  | _ => ""

/-- The names between the slashes of a text. -/
def split (characters : List Char) : List String := (characters.splitOn '/').map String.ofList

/-- The names after the anchor, some of which may be blank. -/
def names (path : Path) : List String := split (path.text.toList.drop path.anchor.length)

/-- A blank name leads nowhere. -/
def isBlankName (name : String) : Bool := name = "" || name = "."

/-- A trimmed path does not end in blank names. -/
def trim (names : List String) : List String := (names.reverse.dropWhile isBlankName).reverse

def ofNames (anchor : String) (names : List String) : Path := ⟨anchor ++ "/".intercalate names⟩

/-- The parent lacks the last name, and a lone name has the empty path as its parent. -/
def parent? (path : Path) : Option Path :=
  match (trim path.names).reverse with
  | _ :: rest => some (ofNames path.anchor (trim rest.reverse))
  | [] => if path.anchor = "." then some ⟨""⟩ else none

/-- A step to the parent names no file. -/
def fileName? (path : Path) : Option String :=
  match (trim path.names).getLast? with
  | some name => if name = ".." then none else some name
  | none => none

/-- The stem of a file name and what follows its last point, if the stem is not empty. -/
def splitExtension (name : String) : String × Option String :=
  let reversed := name.toList.reverse
  match reversed.dropWhile (· ≠ '.') with
  | _ :: first :: stem =>
      (String.ofList (first :: stem).reverse,
        some (String.ofList (reversed.takeWhile (· ≠ '.')).reverse))
  | _ => (name, none)

def extension? (path : Path) : Option String :=
  path.fileName?.bind fun name => (splitExtension name).2

/-- A path that names no file keeps its text. -/
def withExtension (path : Path) (extension : String) : Path :=
  match path.fileName? with
  | some name =>
      ofNames path.anchor
        ((trim path.names).dropLast ++ [(splitExtension name).1 ++ "." ++ extension])
  | none => path

/-- An absolute path stands for itself wherever it is looked for. -/
def join (path other : Path) : Path :=
  if other.isAbsolute then other
  else
    match path.text.toList.getLast? with
    | none => other
    | some '/' => ⟨path.text ++ other.text⟩
    | some _ => ⟨path.text ++ "/" ++ other.text⟩

def child (path : Path) (name : String) : Path := path.join ⟨name⟩

/-- The path and the paths above it, nearest first, of which at most a number are given. -/
def ancestors : Nat → Path → List Path
  | 0, path => [path]
  | number + 1, path => path :: (path.parent?.map (ancestors number)).getD []

/-- A path has no more ancestors than characters. -/
def withAncestors (path : Path) : List Path := path.ancestors path.text.length

end Path

end PropertyPanel

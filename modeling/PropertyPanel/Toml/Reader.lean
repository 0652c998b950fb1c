/-
This file reads TOML texts as tables.
-/

import PropertyPanel.Toml.Plain
import PropertyPanel.Toml.Token

namespace PropertyPanel.Toml

/-- A key is a row of names with points between them. -/
inductive KeyPart where
  | name (text : String)
  | point
  deriving DecidableEq

namespace KeyPart

def isBareName (name : String) : Bool :=
  name.toList.all fun character =>
    character.isAlphanum || character = '_' || character = '-'

/-- The parts of a word that may have points in it. -/
def ofWord? (spelling : String) : Option (List KeyPart) :=
  let names := spelling.splitOn "."
  if names.all isBareName then
    some <| (names.map name).intersperse point |>.filter fun part => part ≠ name ""
  else none

/-- Names and points take turns, and a key begins and ends with a name. -/
def path? : List KeyPart → Option (List String)
  | [name text] => some [text]
  | name text :: point :: rest => (path? rest).map fun names => text :: names
  | _ => none

end KeyPart

/-- Lists and tables in braces are nested less deeply than this. -/
def nestingLimit : Nat := 80

/-- A key has fewer names than this. -/
def keyLimit : Nat := 80

def key? (reversed : List KeyPart) : Option (List String) :=
  (KeyPart.path? reversed.reverse).filter fun names => names.length < keyLimit

/-- An open list or table holds its finished parts in reverse. -/
inductive Frame where
  | list (reversed : List Value)
  | table (reversed : List Assignment)

/-- The finished sections and the open one are held in reverse. -/
structure Progress where
  sections : List Section
  header : Option Header
  assignments : List Assignment

namespace Progress

def start : Progress := ⟨[], none, []⟩

def finish (progress : Progress) : List Section :=
  ⟨progress.header, progress.assignments.reverse⟩ :: progress.sections

def enter (progress : Progress) (header : Header) : Progress :=
  ⟨progress.finish, some header, []⟩

def assign (progress : Progress) (assignment : Assignment) : Progress :=
  { progress with assignments := assignment :: progress.assignments }

end Progress

/-- The keys of the open tables wait for their values, innermost first. -/
structure Nesting where
  frames : List Frame
  keys : List (List String)
  progress : Progress

/-- The reader knows what may come next. -/
inductive Expectation where
  | statement
  | openHeader
  | header (double : Bool) (reversed : List KeyPart)
  | closeHeader (path : List String)
  | key (reversed : List KeyPart)
  | firstKey
  | value
  | firstItem
  | date (spelling : String)
  | time (spelling : String)
  | separator
  | lineEnd

structure Reading where
  expectation : Expectation
  nesting : Nesting

namespace Reading

def start : Reading := ⟨.statement, ⟨[], [], .start⟩⟩

def expect (nesting : Nesting) (expectation : Expectation) : Option Reading :=
  some ⟨expectation, nesting⟩

/-- A finished value goes into the innermost list or gets the innermost key. -/
def finish? (nesting : Nesting) (value : Value) : Option Reading :=
  match nesting.frames, nesting.keys with
  | .list reversed :: frames, _ =>
      expect { nesting with frames := .list (value :: reversed) :: frames } .separator
  | .table reversed :: frames, key :: keys =>
      expect { nesting with frames := .table (⟨key, value⟩ :: reversed) :: frames, keys }
        .separator
  | [], key :: keys =>
      expect { nesting with keys, progress := nesting.progress.assign ⟨key, value⟩ } .lineEnd
  | _, [] => none

def open? (nesting : Nesting) (frame : Frame) (expectation : Expectation) : Option Reading :=
  if nesting.frames.length + 1 < nestingLimit then
    expect { nesting with frames := frame :: nesting.frames } expectation
  else none

def closeList? (nesting : Nesting) : Option Reading :=
  match nesting.frames with
  | .list reversed :: frames => finish? { nesting with frames } (.list reversed.reverse)
  | _ => none

def closeTable? (nesting : Nesting) : Option Reading :=
  match nesting.frames with
  | .table reversed :: frames =>
      (Table.fill? [] reversed.reverse).bind fun entries =>
        finish? { nesting with frames } (.table .closed entries)
  | _ => none

def isInList (nesting : Nesting) : Bool :=
  match nesting.frames with
  | .list _ :: _ => true
  | _ => false

/-- Line ends have no meaning within lists and are not allowed within tables. -/
def passLine? (reading : Reading) : Option Reading :=
  if isInList reading.nesting then some reading else none

def addParts? (reversed : List KeyPart) : Token → Option (List KeyPart)
  | .word spelling => (KeyPart.ofWord? spelling).map fun parts => parts.reverse ++ reversed
  | .quoted text true => some (.name text :: reversed)
  | _ => none

def keyStep? (nesting : Nesting) (reversed : List KeyPart) (token : Token) : Option Reading :=
  match token with
  | .equals =>
      (key? reversed).bind fun key => expect { nesting with keys := key :: nesting.keys } .value
  | _ => (addParts? reversed token).bind fun reversed => expect nesting (.key reversed)

def headerStep? (nesting : Nesting) (double : Bool) (reversed : List KeyPart) (token : Token) :
    Option Reading :=
  match token with
  | .closeList =>
      (key? reversed).bind fun path =>
        if double then expect nesting (.closeHeader path)
        else
          expect { nesting with progress := nesting.progress.enter (.table path) } .lineEnd
  | _ => (addParts? reversed token).bind fun reversed => expect nesting (.header double reversed)

def valueStep? (nesting : Nesting) (token : Token) : Option Reading :=
  match token with
  | .quoted text _ => finish? nesting (.text text)
  | .word spelling =>
      if isDate spelling.toList then expect nesting (.date spelling)
      else (plain? spelling).bind (finish? nesting)
  | .openList => open? nesting (.list []) .firstItem
  | .openTable => open? nesting (.table []) .firstKey
  | .newLine => passLine? ⟨.value, nesting⟩
  | _ => none

def separatorStep? (nesting : Nesting) (token : Token) : Option Reading :=
  match token with
  | .comma => expect nesting (if isInList nesting then .firstItem else .key [])
  | .closeList => closeList? nesting
  | .closeTable => closeTable? nesting
  | .newLine => passLine? ⟨.separator, nesting⟩
  | _ => none

def lineEndStep? (nesting : Nesting) (token : Token) : Option Reading :=
  match token with
  | .newLine => expect nesting .statement
  | _ => none

/-- After a value, another value, the end of a list or table, or the end of the line follows. -/
def afterValue? (reading : Reading) (token : Token) : Option Reading :=
  match reading.expectation, token with
  | _, .blank => some reading
  | _, .tab => some reading
  | .separator, _ => separatorStep? reading.nesting token
  | .lineEnd, _ => lineEndStep? reading.nesting token
  | _, _ => none

/-- A single blank may stand between a date and a time. -/
def dateStep? (nesting : Nesting) (spelling : String) (token : Token) : Option Reading :=
  match token with
  | .blank => expect nesting (.time spelling)
  | _ => (finish? nesting (.plain spelling)).bind fun reading => afterValue? reading token

def timeStep? (nesting : Nesting) (spelling : String) (token : Token) : Option Reading :=
  match token with
  | .word time =>
      let spelling := spelling ++ " " ++ time
      if isMoment spelling.toList then finish? nesting (.plain spelling) else none
  | _ => (finish? nesting (.plain spelling)).bind fun reading => afterValue? reading token

/-- Blanks count only between the two brackets of a header and after a date. -/
def isBlankAllowed : Expectation → Bool
  | .openHeader => false
  | .closeHeader _ => false
  | .date _ => false
  | .time _ => false
  | _ => true

def tokenStep? (reading : Reading) (token : Token) : Option Reading :=
  let nesting := reading.nesting
  match reading.expectation with
  | .statement =>
      match token with
      | .newLine => some reading
      | .openList => expect nesting .openHeader
      | _ => keyStep? nesting [] token
  | .openHeader =>
      match token with
      | .openList => expect nesting (.header true [])
      | .blank => expect nesting (.header false [])
      | .tab => expect nesting (.header false [])
      | _ => headerStep? nesting false [] token
  | .header double reversed => headerStep? nesting double reversed token
  | .closeHeader path =>
      match token with
      | .closeList =>
          expect { nesting with progress := nesting.progress.enter (.sequence path) } .lineEnd
      | _ => none
  | .key reversed => keyStep? nesting reversed token
  | .firstKey =>
      match token with
      | .closeTable => closeTable? nesting
      | _ => keyStep? nesting [] token
  | .value => valueStep? nesting token
  | .firstItem =>
      match token with
      | .closeList => closeList? nesting
      | .newLine => some reading
      | _ => valueStep? nesting token
  | .date spelling => dateStep? nesting spelling token
  | .time spelling => timeStep? nesting spelling token
  | .separator => separatorStep? nesting token
  | .lineEnd => lineEndStep? nesting token

def step? (reading : Reading) (token : Token) : Option Reading :=
  if isBlankAllowed reading.expectation && (token = .blank || token = .tab) then some reading
  else tokenStep? reading token

end Reading

/-- The last line need not have an end. -/
def sections? (text : String) : Option (List Section) :=
  (Token.scan? text).bind fun tokens =>
    ((tokens ++ [Token.newLine]).foldlM Reading.step? Reading.start).bind fun reading =>
      match reading.expectation with
      | .statement => some reading.nesting.progress.finish.reverse
      | _ => none

/-- The table of a text, if the text defines one. -/
def parse? (text : String) : Option Table := (sections? text).bind Table.ofSections?

end PropertyPanel.Toml

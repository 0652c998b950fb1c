/-
This file defines the values of TOML and the rules by which statements make up tables.
-/

import PropertyPanel.Dictionary

namespace PropertyPanel.Toml

/-- How a table came to be decides what may be added to it. -/
inductive Origin where
  | closed
  | header
  | implied
  | dotted
  deriving DecidableEq

/-- Numbers and moments are kept as they are spelled. -/
inductive Value where
  | text (content : String)
  | flag (value : Bool)
  | plain (spelling : String)
  | list (items : List Value)
  | table (origin : Origin) (entries : List (String × Value))
  | sequence (tables : List (List (String × Value)))

abbrev Table := List (String × Value)

/-- A value is given to a key of one or more names. -/
structure Assignment where
  key : List String
  value : Value

inductive Header where
  | table (path : List String)
  | sequence (path : List String)

/-- The assignments before the first header belong to the root. -/
structure Section where
  header : Option Header
  assignments : List Assignment

namespace Table

/-- A dotted key may enter no table that a header or braces have defined. -/
def assign? (value : Value) : (key : List String) → (free : Bool) → Table → Option Table
  | [], _, _ => none
  | [name], free, table =>
      if free && (table.lookup name).isNone then some (table ++ [(name, value)]) else none
  | name :: rest, _, table =>
      match table.lookup name with
      | none =>
          (assign? value rest true []).map fun inner =>
            Entries.put name (.table .dotted inner) table
      | some (.table origin inner) =>
          if origin = .closed ∨ origin = .header then none
          else
            (assign? value rest (origin = .dotted) inner).map fun inner =>
              Entries.put name (.table origin inner) table
      | some (.sequence tables) =>
          match tables.reverse with
          | [] => none
          | last :: before =>
              (assign? value rest false last).map fun last =>
                Entries.put name (.sequence (last :: before).reverse) table
      | some _ => none

def fill? (table : Table) (assignments : List Assignment) : Option Table :=
  assignments.foldlM (fun table assignment => assign? assignment.value assignment.key true table)
    table

/-- A header implies the tables on its path and enters the last table of a sequence. -/
def descend? (change : Table → Option Table) : List String → Table → Option Table
  | [], table => change table
  | name :: rest, table =>
      match table.lookup name with
      | none =>
          (descend? change rest []).map fun inner =>
            Entries.put name (.table .implied inner) table
      | some (.table origin inner) =>
          if origin = .closed then none
          else
            (descend? change rest inner).map fun inner =>
              Entries.put name (.table origin inner) table
      | some (.sequence tables) =>
          match tables.reverse with
          | [] => none
          | last :: before =>
              (descend? change rest last).map fun last =>
                Entries.put name (.sequence (last :: before).reverse) table
      | some _ => none

/-- A table has one header at most, which may come after the headers within it. -/
def openTable? (assignments : List Assignment) (name : String) (parent : Table) : Option Table :=
  let inner? : Option Table :=
    match parent.lookup name with
    | none => some []
    | some (.table .implied inner) => some inner
    | some _ => none
  inner?.bind fun inner =>
    (fill? inner assignments).map fun inner =>
      Entries.put name (.table .header inner) parent

def extendSequence? (assignments : List Assignment) (name : String) (parent : Table) :
    Option Table :=
  let tables? : Option (List Table) :=
    match parent.lookup name with
    | none => some []
    | some (.sequence tables) => some tables
    | some _ => none
  tables?.bind fun tables =>
    (fill? [] assignments).map fun last =>
      Entries.put name (.sequence (tables ++ [last])) parent

def addSection? (table : Table) (addition : Section) : Option Table :=
  match addition.header with
  | none => fill? table addition.assignments
  | some (.table path) =>
      path.getLast?.bind fun name =>
        descend? (openTable? addition.assignments name) path.dropLast table
  | some (.sequence path) =>
      path.getLast?.bind fun name =>
        descend? (extendSequence? addition.assignments name) path.dropLast table

def ofSections? (sections : List Section) : Option Table := sections.foldlM addSection? []

end Table

end PropertyPanel.Toml

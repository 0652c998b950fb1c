/-
This file defines the tree that a configuration text spells, before it is given a meaning.
-/

import PropertyPanel.Json.Basic

namespace PropertyPanel

namespace Source

/-- A leaf that no value can stand for is irregular and does harm only where it is used. -/
inductive Atom where
  | null
  | flag (value : Bool)
  | number (value : Json.Number)
  | infinite
  | text (value : String)
  | irregular
  deriving DecidableEq

/-- The spelling is the text that the leaf stands for where a text is wanted. -/
structure Leaf where
  atom : Atom
  spelling : Option String
  deriving DecidableEq

def Leaf.ofText (value : String) : Leaf := ⟨.text value, some value⟩

def Leaf.ofAtom : Atom → Leaf
  | .text value => .ofText value
  | atom => ⟨atom, none⟩

/-- The settled leaf keeps its spelling only if it is a text. -/
def Leaf.settle? (leaf : Leaf) : Option Leaf :=
  match leaf.atom with
  | .irregular => none
  | atom => some (.ofAtom atom)

end Source

/-- A table keeps every entry that was spelled, in order and with repetitions. -/
inductive Source where
  | leaf (value : Source.Leaf)
  | list (items : List Source)
  | table (entries : List (Source.Leaf × Source))

namespace Source

instance : Inhabited Source := ⟨leaf (.ofAtom .null)⟩

/-- The number of levels that lists and tables may be nested. -/
def nestingLimit : Nat := 127

mutual

/-- A settled tree holds no irregular leaf and is not nested too deeply. -/
def settle? (levels : Nat) : Source → Option Source
  | leaf value => value.settle?.map leaf
  | list items => if levels = 0 then none else (settleItems? (levels - 1) items).map list
  | table entries => if levels = 0 then none else (settleEntries? (levels - 1) entries).map table

def settleItems? (levels : Nat) : List Source → Option (List Source)
  | [] => some []
  | item :: rest =>
      (settle? levels item).bind fun item =>
        (settleItems? levels rest).map fun rest => item :: rest

def settleEntries? (levels : Nat) : List (Leaf × Source) → Option (List (Leaf × Source))
  | [] => some []
  | (name, value) :: rest =>
      name.settle?.bind fun name =>
        (settle? levels value).bind fun value =>
          (settleEntries? levels rest).map fun rest => (name, value) :: rest

end

mutual

/-- The value of a tree gives each name its last value at the place of its first use. -/
def json? (levels : Nat) : Source → Option Json
  | leaf value =>
      match value.atom with
      | .null => some .null
      | .flag value => some (.flag value)
      | .number value => some (.number value)
      | .infinite => some .null
      | .text value => some (.text value)
      | .irregular => none
  | list items => if levels = 0 then none else (jsonItems? (levels - 1) items).map .list
  | table entries =>
      if levels = 0 then none
      else (jsonEntries? (levels - 1) entries).map fun members => .object (Entries.gather members)

def jsonItems? (levels : Nat) : List Source → Option (List Json)
  | [] => some []
  | item :: rest =>
      (json? levels item).bind fun item =>
        (jsonItems? levels rest).map fun rest => item :: rest

def jsonEntries? (levels : Nat) : List (Leaf × Source) → Option (List (String × Json))
  | [] => some []
  | (name, value) :: rest =>
      name.spelling.bind fun name =>
        (json? levels value).bind fun value =>
          (jsonEntries? levels rest).map fun rest => (name, value) :: rest

end

def isNull : Source → Bool
  | leaf value => value.atom = .null
  | _ => false

def text? : Source → Option String
  | leaf value => value.spelling
  | _ => none

def flag? : Source → Option Bool
  | leaf ⟨.flag value, _⟩ => some value
  | _ => none

/-- An absent part and a null part are both allowed. -/
def optional? {Value : Type} (decode : Source → Option Value) (source : Source) :
    Option (Option Value) :=
  if source.isNull then some none else (decode source).map some

def items? {Value : Type} (decode : Source → Option Value) : Source → Option (List Value)
  | list items => items.mapM decode
  | _ => none

/-- A repeated name keeps its first place and takes its last value. -/
def dictionary? {Value : Type} (decode : Source → Option Value) :
    Source → Option (Dictionary String Value)
  | table entries => do
      let decoded ← entries.mapM fun (name, value) => do
        return (← name.spelling, ← decode value)
      return .ofList decoded
  | _ => none

/-- A record spells some of its named parts in any order and none of them twice. -/
def recordParts? (names : List String) :
    List (Leaf × Source) → Option (List (String × Source))
  | [] => some []
  | (name, value) :: rest =>
      name.spelling.bind fun name =>
        (recordParts? names rest).bind fun parts =>
          if name ∉ names then some parts
          else if (parts.lookup name).isSome then none
          else some ((name, value) :: parts)

/-- A list spells the leading parts of a record in the order of their names. -/
def record? (names : List String) : Source → Option (List (String × Source))
  | table entries => recordParts? names entries
  | list items => if names.length < items.length then none else some (names.zip items)
  | leaf _ => none

def required? {Value : Type} (parts : List (String × Source)) (name : String)
    (decode : Source → Option Value) : Option Value :=
  (parts.lookup name).bind decode

/-- A part that is not spelled takes its default. -/
def defaulted? {Value : Type} (parts : List (String × Source)) (name : String)
    (default : Value) (decode : Source → Option Value) : Option Value :=
  match parts.lookup name with
  | none => some default
  | some part => decode part

end Source

end PropertyPanel

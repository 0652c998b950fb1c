/-
This file reads JSON text with a stack of the lists and objects that are still open.
-/

import PropertyPanel.Json.Token

namespace PropertyPanel.Json

/-- An open list or object holds its finished parts in reverse. -/
inductive Frame where
  | list (reversed : List Source)
  | object (reversed : List (Source.Leaf × Source)) (name : Source.Leaf)

/-- The reader expects a value, the first part of a list or object, or what follows a value. -/
inductive Expectation where
  | value
  | firstItem
  | firstName
  | name
  | colon (name : Source.Leaf)
  | separator

structure Reading where
  expectation : Expectation
  frames : List Frame
  result : Option Source

namespace Reading

def start : Reading := ⟨.value, [], none⟩

/-- A finished value goes into the innermost open list or object. -/
def finish (value : Source) : List Frame → Reading
  | [] => ⟨.separator, [], some value⟩
  | .list reversed :: frames => ⟨.separator, .list (value :: reversed) :: frames, none⟩
  | .object reversed name :: frames =>
      ⟨.separator, .object ((name, value) :: reversed) name :: frames, none⟩

def beginValue? (frames : List Frame) : Token → Option Reading
  | .atom value => some (finish (.leaf (.ofAtom value)) frames)
  | .openList => some ⟨.firstItem, .list [] :: frames, none⟩
  | .openObject => some ⟨.firstName, .object [] (.ofAtom .null) :: frames, none⟩
  | _ => none

def beginName? (frames : List Frame) : Token → Option Reading
  | .atom (.text name) => some ⟨.colon (.ofText name), frames, none⟩
  | .atom .irregular => some ⟨.colon (.ofAtom .irregular), frames, none⟩
  | _ => none

def close? : List Frame → Token → Option Reading
  | .list reversed :: frames, .closeList => some (finish (.list reversed.reverse) frames)
  | .object reversed _ :: frames, .closeObject =>
      some (finish (.table reversed.reverse) frames)
  | _, _ => none

def separate? (frames : List Frame) (token : Token) : Option Reading :=
  match frames, token with
  | .list _ :: _, .comma => some ⟨.value, frames, none⟩
  | .object _ _ :: _, .comma => some ⟨.name, frames, none⟩
  | _, _ => close? frames token

def step? (reading : Reading) (token : Token) : Option Reading :=
  match reading.expectation with
  | .value => beginValue? reading.frames token
  | .firstItem => (close? reading.frames token).orElse fun _ => beginValue? reading.frames token
  | .firstName => (close? reading.frames token).orElse fun _ => beginName? reading.frames token
  | .name => beginName? reading.frames token
  | .colon name =>
      match reading.frames, token with
      | .object reversed _ :: frames, .colon =>
          some ⟨.value, .object reversed name :: frames, none⟩
      | _, _ => none
  | .separator => separate? reading.frames token

end Reading

/-- The tree of a JSON text, if the text is one value. -/
def source? (text : String) : Option Source :=
  (Token.scan? text).bind fun tokens =>
    (tokens.foldlM Reading.step? Reading.start).bind Reading.result

/-- The value of a JSON text, if the text is one value that is not nested too deeply. -/
def parse? (text : String) : Option Json :=
  (source? text).bind (Source.json? Source.nestingLimit)

end PropertyPanel.Json

/-
This file defines the leaf values of the business objects.
-/

import PropertyPanel.Number.Integer
import PropertyPanel.Source

namespace PropertyPanel

inductive Scalar where
  | flag (value : Bool)
  | integer (value : Int64)
  | text (value : String)
  deriving DecidableEq

namespace Scalar

/-- The empty text counts as a missing value. -/
def isEmpty : Scalar → Bool
  | text value => value.isEmpty
  | _ => false

def text? : Scalar → Option String
  | text value => some value
  | _ => none

/-- The display text has no quotes. -/
def display : Scalar → String
  | flag value => if value then "true" else "false"
  | integer value => toString value.toInt
  | text value => value

/-- A number that is no integer of 64 bits is kept as its text. -/
def ofNumber (number : Json.Number) : Scalar :=
  match number with
  | .integer value =>
      match Integer.ofInt? value with
      | some value => integer value
      | none => text number.text
  | .real _ => text number.text

def ofJson? : Json → Option Scalar
  | .flag value => some (flag value)
  | .number value => some (ofNumber value)
  | .text value => some (text value)
  | _ => none

def toJson : Scalar → Json
  | flag value => .flag value
  | integer value => .ofInt value.toInt
  | text value => .text value

/-- A configured scalar is a flag, a text or an integer of 64 bits, and no other number. -/
def ofSource? : Source → Option Scalar
  | .leaf ⟨.flag value, _⟩ => some (flag value)
  | .leaf ⟨.number (.integer value), _⟩ => (Integer.ofInt? value).map integer
  | .leaf ⟨.text value, _⟩ => some (text value)
  | _ => none

end Scalar

end PropertyPanel

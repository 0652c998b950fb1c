/-
This file converts between stored values, displayed values and typed text.
-/

import PropertyPanel.Configuration.Field
import PropertyPanel.Scalar
import PropertyPanel.Text.Blank
import PropertyPanel.Text.PlainCase

namespace PropertyPanel

/-- The value that an input shows. -/
inductive FieldValue where
  | text (value : String)
  | integer (value : Option Int64)
  | boolean (value : Bool)
  deriving DecidableEq

namespace FieldValue

def integerOf : Option Scalar → Option Int64
  | some (.integer value) => some value
  | some (.text value) => Integer.parse? (Blank.trim value)
  | _ => none

def booleanOf : Option Scalar → Bool
  | some (.flag value) => value
  | some (.text value) => plainLower value = "true"
  | some (.integer value) => value ≠ 0
  | none => false

/-- An absent text is shown empty and an absent flag unchecked. -/
def ofScalar (kind : InputKind) (value : Option Scalar) : FieldValue :=
  match kind with
  | .text | .textArea => text ((value.map Scalar.display).getD "")
  | .integer => integer (integerOf value)
  | .boolean => boolean (booleanOf value)

def display : FieldValue → String
  | text value => value
  | integer (some value) => toString value.toInt
  | integer none => ""
  | boolean value => if value then "true" else "false"

def toJson : FieldValue → Json
  | text value => .text value
  | integer (some value) => .ofInt value.toInt
  | integer none => .null
  | boolean value => .flag value

end FieldValue

inductive InputError where
  | notAnInteger (raw : String)
  | notABoolean (raw : String)
  deriving DecidableEq

def InputError.message : InputError → String
  | notAnInteger raw => "'" ++ raw ++ "' is not an integer"
  | notABoolean raw => "'" ++ raw ++ "' is not a boolean"

/-- An edit of a field, where an emptied number has no value. -/
inductive FieldInput where
  | text (value : String)
  | integer (value : Option Int64)
  | boolean (value : Bool)
  deriving DecidableEq

namespace FieldInput

def trueWords : List String := ["true", "yes", "on", "1"]

def falseWords : List String := ["false", "no", "off", "0", ""]

def parse (kind : InputKind) (raw : String) : Except InputError FieldInput :=
  match kind with
  | .text | .textArea => .ok (text raw)
  | .integer =>
      let trimmed := Blank.trim raw
      if trimmed.isEmpty then .ok (integer none)
      else
        match Integer.parse? trimmed with
        | some value => .ok (integer (some value))
        | none => .error (.notAnInteger raw)
  | .boolean =>
      let word := plainLower (Blank.trim raw)
      if word ∈ trueWords then .ok (boolean true)
      else if word ∈ falseWords then .ok (boolean false)
      else .error (.notABoolean raw)

/-- Empty inputs and unchecked boxes clear the field. -/
def value : FieldInput → Option Scalar
  | text value => if value.isEmpty then none else some (.text value)
  | integer value => value.map .integer
  | boolean value => if value then some (.flag true) else none

end FieldInput

end PropertyPanel

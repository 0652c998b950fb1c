/-
This file defines JSON values whose objects keep the order of their members.
-/

import PropertyPanel.Dictionary
import PropertyPanel.Number.Decimal

namespace PropertyPanel

namespace Json

/-- An integer keeps its digits, and any other number is a floating point number. -/
inductive Number where
  | integer (value : Int)
  | real (value : Binary64)
  deriving DecidableEq

def Number.text : Number → String
  | .integer value => toString value
  | .real value => DecimalLayout.standard.write value

end Json

inductive Json where
  | null
  | flag (value : Bool)
  | number (value : Json.Number)
  | text (value : String)
  | list (items : List Json)
  | object (members : List (String × Json))

namespace Json

instance : Inhabited Json := ⟨null⟩

/-- The word names the kind of a value in messages. -/
def kind : Json → String
  | null => "null"
  | flag _ => "boolean"
  | number _ => "number"
  | text _ => "string"
  | list _ => "array"
  | object _ => "object"

def member? (value : Json) (name : String) : Option Json :=
  match value with
  | object members => members.lookup name
  | _ => none

def isList : Json → Bool
  | list _ => true
  | _ => false

def text? : Json → Option String
  | text value => some value
  | _ => none

def ofInt (value : Int) : Json := number (.integer value)

def ofNat (value : Nat) : Json := ofInt value

def texts (values : List String) : Json := list (values.map text)

end Json

end PropertyPanel

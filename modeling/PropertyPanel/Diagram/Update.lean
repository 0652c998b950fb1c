/-
This file defines the changes that a panel reports to a diagram and the reasons why one fails.
-/

import PropertyPanel.Scalar

namespace PropertyPanel

/-- The identifier of an element of a diagram. -/
abbrev ElementId := String

/-- An update without a value clears the field. -/
structure PropertyUpdate where
  field : String
  location : String
  value : Option Scalar
  deriving DecidableEq

namespace PropertyUpdate

def toJson (update : PropertyUpdate) : Json :=
  .object [("field", .text update.field), ("location", .text update.location),
    ("value", (update.value.map Scalar.toJson).getD .null)]

end PropertyUpdate

inductive ApplyError where
  | unknownElement (element : ElementId)
  | unknownType (typeTag : String)
  | unreachable (location property : String)
  | rejected (element : ElementId) (reason : String)
  deriving DecidableEq

def ApplyError.message : ApplyError → String
  | unknownElement element => "Unknown element: " ++ element
  | unknownType typeTag => "Unknown node type: " ++ typeTag
  | unreachable location property =>
      "Location '" ++ location ++ "' cannot create untyped node '" ++ property ++ "'"
  | rejected element reason => "Update rejected for " ++ element ++ ": " ++ reason

end PropertyPanel

/-
This file defines the notice that a panel shows after a save.
-/

import PropertyPanel.Draft

namespace PropertyPanel

inductive Notice where
  | saved
  | failed
  deriving DecidableEq

namespace Notice

/-- A flush without drafts leaves no notice. -/
def ofStatus : FlushStatus → Option Notice
  | .nothingToDo => none
  | .allSucceeded _ => some saved
  | .someFailed _ _ => some failed

def isError : Notice → Bool
  | saved => false
  | failed => true

def message : Notice → String
  | saved => "Properties saved successfully"
  | failed => "Some properties failed to save"

def toJson (notice : Notice) : Json :=
  .object [("level", .text (if notice.isError then "error" else "success")),
    ("message", .text notice.message)]

end Notice

end PropertyPanel

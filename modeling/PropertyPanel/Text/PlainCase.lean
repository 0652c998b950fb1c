/-
This file defines the lower case of the letters from A to Z.
-/

namespace PropertyPanel

/-- Characters other than the letters from A to Z are left alone. -/
def plainLower (text : String) : String := String.ofList (text.toList.map Char.toLower)

end PropertyPanel

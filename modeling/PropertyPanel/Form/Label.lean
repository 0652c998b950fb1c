/-
This file derives labels from the identifiers of fields.
-/

import PropertyPanel.Configuration.Field
import PropertyPanel.Text.LetterCase

namespace PropertyPanel.Label

/-- The local part of an identifier follows its last colon. -/
def localPart (id : List Char) : List Char :=
  (id.reverse.takeWhile fun character => character ≠ ':').reverse

/-- Each upper case letter begins a word. -/
def splitWords (characters : List Char) : List Char :=
  characters.flatMap fun character =>
    if LetterCase.isUppercase character then [' ', character] else [character]

/-- The first character is in upper case. -/
def ofCharacters : List Char → List Char
  | [] => []
  | first :: rest => LetterCase.uppercase first ++ splitWords rest

def ofFieldId (id : String) : String := String.ofList (ofCharacters (localPart id.toList))

/-- A configured label comes before a derived one. -/
def ofField (id : String) (field : FieldDescriptor) : String := field.name.getD (ofFieldId id)

end PropertyPanel.Label

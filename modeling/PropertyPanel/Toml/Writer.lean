/-
This file writes texts and flags as TOML values.
-/

import PropertyPanel.Json.Writer

namespace PropertyPanel.Toml

/-- The properties of a text that decide how it can be quoted. -/
structure TextTraits where
  singleQuotes : Nat
  doubleQuotes : Nat
  hasControl : Bool
  hasBackslash : Bool
  hasLineEnd : Bool

/-- The length of the longest run of a character. -/
def longestRun (character : Char) (text : List Char) : Nat :=
  (text.foldl (fun (run, longest) next =>
    let run := if next = character then run + 1 else 0
    (run, max run longest)) (0, 0)).2

/-- Tabs and line ends count as controls nowhere. -/
def isControl (character : Char) : Bool :=
  (character.toNat < 32 && character ≠ '\t' && character ≠ '\n') || character.toNat = 127

def TextTraits.of (text : List Char) : TextTraits :=
  { singleQuotes := longestRun '\'' text
    doubleQuotes := longestRun '"' text
    hasControl := text.any isControl
    hasBackslash := text.contains '\\'
    hasLineEnd := text.contains '\n' }

/-- A literal text has no escapes, and only a text of several lines may keep its line ends. -/
structure TextForm where
  literal : Bool
  inLine : Bool
  deriving DecidableEq

/-- The plainest form comes first in which nothing needs to be escaped. -/
def TextForm.choose (traits : TextTraits) : TextForm :=
  let free := !traits.hasControl
  let plain := free && !traits.hasBackslash
  if plain && traits.doubleQuotes = 0 && !traits.hasLineEnd then ⟨false, true⟩
  else if free && traits.singleQuotes = 0 && !traits.hasLineEnd then ⟨true, true⟩
  else if plain && traits.doubleQuotes ≤ 2 then ⟨false, false⟩
  else if free && traits.singleQuotes ≤ 2 then ⟨true, false⟩
  else ⟨false, !traits.hasLineEnd⟩

def upperHexDigit (digit : Nat) : Char := (Json.hexDigit digit).toUpper

def escape (inLine : Bool) (character : Char) : List Char :=
  match character with
  | '\\' => ['\\', '\\']
  | '\t' => ['\\', 't']
  | '\r' => ['\\', 'r']
  | '\n' => if inLine then ['\\', 'n'] else ['\n']
  | _ =>
      if character.toNat = 8 then ['\\', 'b']
      else if character.toNat = 12 then ['\\', 'f']
      else if isControl character then
        ['\\', 'u', '0', '0', upperHexDigit (character.toNat / 16),
          upperHexDigit (character.toNat % 16)]
      else [character]

/-- A text of several lines may have two quotes in a row, and the next one is escaped. -/
def escapeAll (inLine : Bool) (run : Nat) : List Char → List Char
  | [] => []
  | '"' :: rest =>
      if run < (if inLine then 0 else 2) then '"' :: escapeAll inLine (run + 1) rest
      else '\\' :: '"' :: escapeAll inLine 0 rest
  | character :: rest => escape inLine character ++ escapeAll inLine 0 rest

/-- A text of several lines begins on a line of its own. -/
def quote (text : String) : String :=
  let characters := text.toList
  let traits := TextTraits.of characters
  let form := TextForm.choose traits
  let mark := String.ofList (List.replicate (if form.inLine then 1 else 3)
    (if form.literal then '\'' else '"'))
  let lineEnd := if traits.hasLineEnd && !form.inLine then "\n" else ""
  let content := if form.literal then text else String.ofList (escapeAll form.inLine 0 characters)
  mark ++ lineEnd ++ content ++ mark

def textLine (name value : String) : String := name ++ " = " ++ quote value ++ "\n"

def flagLine (name : String) (value : Bool) : String :=
  name ++ " = " ++ (if value then "true" else "false") ++ "\n"

end PropertyPanel.Toml

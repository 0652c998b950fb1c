/-
This file writes JSON values in a compact form and in an indented form.
-/

import PropertyPanel.Json.Basic

namespace PropertyPanel.Json

def hexDigit (value : Nat) : Char := (Nat.toDigits 16 value).headD '0'

/-- Quotes, backslashes and control characters are escaped, and no other character is. -/
def escape (character : Char) : List Char :=
  match character with
  | '"' => ['\\', '"']
  | '\\' => ['\\', '\\']
  | '\n' => ['\\', 'n']
  | '\r' => ['\\', 'r']
  | '\t' => ['\\', 't']
  | _ =>
      if character.toNat = 8 then ['\\', 'b']
      else if character.toNat = 12 then ['\\', 'f']
      else if character.toNat < 32 then
        ['\\', 'u', '0', '0', hexDigit (character.toNat / 16), hexDigit (character.toNat % 16)]
      else [character]

def quote (value : String) : String :=
  "\"" ++ String.ofList (value.toList.flatMap escape) ++ "\""

mutual

def compact : Json → String
  | null => "null"
  | flag value => if value then "true" else "false"
  | number value => value.text
  | text value => quote value
  | list items => "[" ++ compactItems items ++ "]"
  | object members => "\x7b" ++ compactMembers members ++ "\x7d"

def compactItems : List Json → String
  | [] => ""
  | [item] => compact item
  | item :: rest => compact item ++ "," ++ compactItems rest

def compactMembers : List (String × Json) → String
  | [] => ""
  | [(name, value)] => quote name ++ ":" ++ compact value
  | (name, value) :: rest => quote name ++ ":" ++ compact value ++ "," ++ compactMembers rest

end

/-- A new line of the indented form begins with two blanks for each level. -/
def newLine (level : Nat) : String :=
  "\n" ++ String.ofList (List.replicate (2 * level) ' ')

mutual

def indentedAt (level : Nat) : Json → String
  | list [] => "[]"
  | object [] => "\x7b\x7d"
  | list items => "[" ++ indentedItems (level + 1) items ++ newLine level ++ "]"
  | object members => "\x7b" ++ indentedMembers (level + 1) members ++ newLine level ++ "\x7d"
  | null => "null"
  | flag value => if value then "true" else "false"
  | number value => value.text
  | text value => quote value

def indentedItems (level : Nat) : List Json → String
  | [] => ""
  | [item] => newLine level ++ indentedAt level item
  | item :: rest => newLine level ++ indentedAt level item ++ "," ++ indentedItems level rest

def indentedMembers (level : Nat) : List (String × Json) → String
  | [] => ""
  | [(name, value)] => newLine level ++ quote name ++ ": " ++ indentedAt level value
  | (name, value) :: rest =>
      newLine level ++ quote name ++ ": " ++ indentedAt level value ++ "," ++
        indentedMembers level rest

end

/-- The indented form puts every item on a line of its own. -/
def indented (value : Json) : String := indentedAt 0 value

end PropertyPanel.Json

/-
This file splits TOML text into tokens.
-/

import PropertyPanel.Json.Token

namespace PropertyPanel.Toml

/-- A word is a bare key, a plain value or a part of a dotted key. -/
inductive Token where
  | blank
  | tab
  | newLine
  | equals
  | comma
  | openList
  | closeList
  | openTable
  | closeTable
  | word (spelling : String)
  | quoted (content : String) (inLine : Bool)
  deriving DecidableEq

namespace Token

def punctuation? : Char → Option Token
  | ' ' => some blank
  | '\t' => some tab
  | '\n' => some newLine
  | '=' => some equals
  | ',' => some comma
  | '[' => some openList
  | ']' => some closeList
  | '\x7b' => some openTable
  | '\x7d' => some closeTable
  | _ => none

def isWordPart (character : Char) : Bool :=
  character.isAlphanum || character ∈ ['_', '-', '+', '.', ':']

/-- Tabs are the only control characters within a line. -/
def isPrintable (character : Char) : Bool :=
  character = '\t' || (32 ≤ character.toNat && character.toNat ≠ 127)

/-- A text between double quotes has escapes, and a text in several lines has no end of line. -/
structure Quoting where
  mark : Char
  inLine : Bool

/-- Quotes are counted where they may open or close a text of several lines. -/
inductive Mode where
  | between
  | word (reversed : List Char)
  | comment
  | opening (mark : Char) (count : Nat)
  | opened (mark : Char)
  | quoted (quoting : Quoting) (skipping : Bool) (reversed : List Char)
  | closing (mark : Char) (count : Nat) (reversed : List Char)
  | escape (quoting : Quoting) (reversed : List Char)
  | lineEnd (quoting : Quoting) (reversed : List Char)
  | digits (quoting : Quoting) (missing value : Nat) (reversed : List Char)

/-- A step reads one character and gives the tokens that it completes. -/
abbrev Step := Mode × List Token

def escaped? : Char → Option Char
  | '"' => some '"'
  | '\\' => some '\\'
  | 'b' => some (Char.ofNat 8)
  | 'f' => some (Char.ofNat 12)
  | 'n' => some '\n'
  | 'r' => some '\r'
  | 't' => some '\t'
  | _ => none

def character? (code : Nat) : Option Char :=
  if code.isValidChar then some (Char.ofNat code) else none

def finish (inLine : Bool) (reversed : List Char) : Token :=
  quoted (String.ofList reversed.reverse) inLine

/-- A quote, a comment, a word or punctuation may begin between tokens. -/
def enter? (character : Char) : Option Step :=
  if character = '"' || character = '\'' then some (.opening character 1, [])
  else if character = '#' then some (.comment, [])
  else if isWordPart character then some (.word [character], [])
  else (punctuation? character).map fun token => (.between, [token])

def completeWith? (token : Token) (character : Char) : Option Step :=
  (enter? character).map fun (mode, tokens) => (mode, token :: tokens)

/-- After an escaped line end, blanks and further line ends are skipped. -/
def quotedStep? (quoting : Quoting) (skipping : Bool) (reversed : List Char) (character : Char) :
    Option Step :=
  if character = quoting.mark then
    if quoting.inLine then some (.between, [finish true reversed])
    else some (.closing quoting.mark 1 reversed, [])
  else if character = '\\' && quoting.mark = '"' then some (.escape quoting reversed, [])
  else if skipping && (character = '\n' || character = ' ' || character = '\t') then
    some (.quoted quoting true reversed, [])
  else if isPrintable character || (character = '\n' && !quoting.inLine) then
    some (.quoted quoting false (character :: reversed), [])
  else none

/-- Two quotes are an empty text unless a third one follows. -/
def openingStep? (mark : Char) (count : Nat) (character : Char) : Option Step :=
  if character = mark then
    if count < 2 then some (.opening mark (count + 1), []) else some (.opened mark, [])
  else if count < 2 then quotedStep? ⟨mark, true⟩ false [] character
  else completeWith? (finish true []) character

/-- A line end right after the opening quotes does not count. -/
def openedStep? (mark character : Char) : Option Step :=
  if character = '\n' then some (.quoted ⟨mark, false⟩ false [], [])
  else quotedStep? ⟨mark, false⟩ false [] character

/-- The last three quotes of up to five close a text. -/
def closingText? (mark : Char) (count : Nat) (reversed : List Char) : Option Token :=
  if count < 3 then none
  else some (finish false (List.replicate (count - 3) mark ++ reversed))

def closingStep? (mark : Char) (count : Nat) (reversed : List Char) (character : Char) :
    Option Step :=
  if character = mark && count < 5 then some (.closing mark (count + 1) reversed, [])
  else
    match closingText? mark count reversed with
    | some token => completeWith? token character
    | none =>
        quotedStep? ⟨mark, false⟩ false (List.replicate count mark ++ reversed) character

/-- An escaped line end may have blanks before it. -/
def escapeStep? (quoting : Quoting) (reversed : List Char) (character : Char) : Option Step :=
  match character with
  | 'u' => some (.digits quoting 4 0 reversed, [])
  | 'U' => some (.digits quoting 8 0 reversed, [])
  | _ =>
      if character = ' ' || character = '\t' || character = '\n' then
        if quoting.inLine then none
        else if character = '\n' then some (.quoted quoting true reversed, [])
        else some (.lineEnd quoting reversed, [])
      else
        (escaped? character).map fun meaning =>
          (.quoted quoting false (meaning :: reversed), [])

def lineEndStep? (quoting : Quoting) (reversed : List Char) (character : Char) : Option Step :=
  if character = '\n' then some (.quoted quoting true reversed, [])
  else if character = ' ' || character = '\t' then some (.lineEnd quoting reversed, [])
  else none

def digitStep? (quoting : Quoting) (missing value : Nat) (reversed : List Char)
    (character : Char) : Option Step :=
  (Json.Token.hexValue? character).bind fun digit =>
    let value := 16 * value + digit
    if missing ≤ 1 then
      (character? value).map fun meaning => (.quoted quoting false (meaning :: reversed), [])
    else some (.digits quoting (missing - 1) value reversed, [])

def step? (mode : Mode) (character : Char) : Option Step :=
  match mode with
  | .between => enter? character
  | .word reversed =>
      if isWordPart character then some (.word (character :: reversed), [])
      else completeWith? (word (String.ofList reversed.reverse)) character
  | .comment =>
      if character = '\n' then some (.between, [newLine])
      else if isPrintable character then some (.comment, [])
      else none
  | .opening mark count => openingStep? mark count character
  | .opened mark => openedStep? mark character
  | .quoted quoting skipping reversed => quotedStep? quoting skipping reversed character
  | .closing mark count reversed => closingStep? mark count reversed character
  | .escape quoting reversed => escapeStep? quoting reversed character
  | .lineEnd quoting reversed => lineEndStep? quoting reversed character
  | .digits quoting missing value reversed => digitStep? quoting missing value reversed character

/-- The tokens that the end of the text completes. -/
def close? : Mode → Option (List Token)
  | .between => some []
  | .comment => some []
  | .word reversed => some [word (String.ofList reversed.reverse)]
  | .opening _ count => if count < 2 then none else some [finish true []]
  | .closing mark count reversed => (closingText? mark count reversed).map fun token => [token]
  | _ => none

def scanFrom? (mode : Mode) (reversed : List Token) : List Char → Option (List Token)
  | [] => (close? mode).map fun tokens => (tokens.reverse ++ reversed).reverse
  | character :: rest =>
      (step? mode character).bind fun (next, tokens) =>
        scanFrom? next (tokens.reverse ++ reversed) rest

/-- A carriage return before a line feed does not count. -/
def normalize : List Char → List Char
  | '\r' :: '\n' :: rest => '\n' :: normalize rest
  | character :: rest => character :: normalize rest
  | [] => []

def byteOrderMark : Char := Char.ofNat 0xfeff

/-- The tokens of a text, which may begin with a byte order mark. -/
def scan? (text : String) : Option (List Token) :=
  let characters := text.toList
  let characters := if characters.head? = some byteOrderMark then characters.drop 1 else characters
  scanFrom? .between [] (normalize characters)

end Token

end PropertyPanel.Toml

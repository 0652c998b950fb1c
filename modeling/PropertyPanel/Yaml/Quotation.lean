/-
This file reads the scalars of YAML, which may be folded over several lines.
-/

import PropertyPanel.Json.Token

namespace PropertyPanel.Yaml

/-- A position is the rest of the text with its line and column. -/
structure Position where
  rest : List Char
  line : Nat
  column : Nat

def isSpace (character : Char) : Bool := character = ' ' || character = '\t'

/-- A line ends at a line feed or at one of the two separators. -/
def isBreak (character : Char) : Bool :=
  character = '\n' || character.toNat = 0x2028 || character.toNat = 0x2029

/-- An indicator counts only before a space, a line end or the end of the text. -/
def endsWord : List Char → Bool
  | [] => true
  | character :: _ => isSpace character || isBreak character

/-- A marker of a document stands at the start of a line. -/
def isMarker (mark : Char) : List Char → Bool
  | first :: second :: third :: rest =>
      first = mark && second = mark && third = mark && endsWord rest
  | _ => false

def isDocumentMarker (column : Nat) (rest : List Char) : Bool :=
  column = 0 && (isMarker '-' rest || isMarker '.' rest)

/-- A scalar keeps the blanks and line ends after its text until more text follows. -/
structure Folding where
  reversed : List Char
  blanks : List Char
  newLine : Bool
  firstBreak : Option Char
  furtherBreaks : List Char

namespace Folding

def start : Folding := ⟨[], [], false, none, []⟩

def pushBlank (folding : Folding) (character : Char) : Folding :=
  if folding.newLine then folding else { folding with blanks := character :: folding.blanks }

def pushBreak (folding : Folding) (character : Char) : Folding :=
  if folding.newLine then { folding with furtherBreaks := character :: folding.furtherBreaks }
  else { folding with blanks := [], newLine := true, firstBreak := some character }

/-- An escaped line end leaves nothing behind. -/
def pushEscapedBreak (folding : Folding) : Folding :=
  { folding with newLine := true, firstBreak := none }

/-- A single line end between two parts becomes a blank. -/
def separator (folding : Folding) : List Char :=
  if folding.newLine then
    match folding.firstBreak with
    | some '\n' => if folding.furtherBreaks.isEmpty then [' '] else folding.furtherBreaks
    | some character => folding.furtherBreaks ++ [character]
    | none => folding.furtherBreaks
  else folding.blanks

def join (folding : Folding) : Folding :=
  { start with reversed := folding.separator ++ folding.reversed }

def push (folding : Folding) (character : Char) : Folding :=
  let joined := folding.join
  { joined with reversed := character :: joined.reversed }

def text (folding : Folding) : String := String.ofList folding.reversed.reverse

/-- Text has been interrupted by blanks or a line end, or has not begun. -/
def isInterrupted (folding : Folding) : Bool :=
  folding.newLine || !folding.blanks.isEmpty || folding.reversed.isEmpty

end Folding

/-- A scalar ends at a position, which may be on a later line. -/
structure Scanned where
  text : String
  position : Position
  newLine : Bool

def isFlowIndicator (character : Char) : Bool :=
  character ∈ [',', '[', ']', '\x7b', '\x7d']

/-- A plain scalar ends before a comment, before less indented text and before an indicator. -/
def endsPlain (flow : Bool) (indent : Nat) (folding : Folding) (rest : List Char)
    (column : Nat) : Bool :=
  let first := rest.head?
  let interrupted :=
    folding.isInterrupted &&
      ((folding.newLine && !flow && column < indent) || isDocumentMarker column rest ||
        first = some '#')
  interrupted || (first = some ':' && endsWord (rest.drop 1)) ||
    (flow && (first.map isFlowIndicator).getD false)

def plain? (flow : Bool) (indent : Nat) (folding : Folding) (line column : Nat) :
    List Char → Option Scanned
  | [] => some ⟨folding.text, ⟨[], line, column⟩, folding.newLine⟩
  | character :: rest =>
      if isSpace character then
        if folding.newLine && column < indent && character = '\t' then none
        else plain? flow indent (folding.pushBlank character) line (column + 1) rest
      else if isBreak character then
        plain? flow indent (folding.pushBreak character) (line + 1) 0 rest
      else if endsPlain flow indent folding (character :: rest) column then
        some ⟨folding.text, ⟨character :: rest, line, column⟩, folding.newLine⟩
      else if flow && character = ':' &&
          (rest.head?.map fun next => isFlowIndicator next || next = '?').getD false then none
      else plain? flow indent (folding.push character) line (column + 1) rest

/-- A quoted scalar may be within an escape, which may be within the digits of a character. -/
inductive QuoteMode where
  | text
  | escape
  | digits (missing value : Nat)

def escaped? : Char → Option Char
  | '0' => some (Char.ofNat 0)
  | 'a' => some (Char.ofNat 7)
  | 'b' => some (Char.ofNat 8)
  | 't' => some '\t'
  | '\t' => some '\t'
  | 'n' => some '\n'
  | 'v' => some (Char.ofNat 11)
  | 'f' => some (Char.ofNat 12)
  | 'r' => some '\r'
  | 'e' => some (Char.ofNat 27)
  | ' ' => some ' '
  | '"' => some '"'
  | '/' => some '/'
  | '\\' => some '\\'
  | 'N' => some (Char.ofNat 0x85)
  | '_' => some (Char.ofNat 0xa0)
  | 'L' => some (Char.ofNat 0x2028)
  | 'P' => some (Char.ofNat 0x2029)
  | _ => none

/-- The number of digits that spell an escaped character. -/
def digitCount? : Char → Option Nat
  | 'x' => some 2
  | 'u' => some 4
  | 'U' => some 8
  | _ => none

def character? (code : Nat) : Option Char :=
  if code.isValidChar then some (Char.ofNat code) else none

/-- Between single quotes, two quotes stand for one. -/
def single? (folding : Folding) (line column : Nat) : List Char → Option Scanned
  | [] => none
  | '\'' :: '\'' :: rest => single? (folding.push '\'') line (column + 2) rest
  | '\'' :: rest => some ⟨folding.join.text, ⟨rest, line, column + 1⟩, false⟩
  | character :: rest =>
      if isSpace character then single? (folding.pushBlank character) line (column + 1) rest
      else if isBreak character then single? (folding.pushBreak character) (line + 1) 0 rest
      else if isDocumentMarker column (character :: rest) then none
      else single? (folding.push character) line (column + 1) rest

/-- Between double quotes, a backslash begins an escape. -/
def double? (mode : QuoteMode) (folding : Folding) (line column : Nat) :
    List Char → Option Scanned
  | [] => none
  | character :: rest =>
      match mode with
      | .escape =>
          if isBreak character then
            double? .text folding.join.pushEscapedBreak (line + 1) 0 rest
          else
            match digitCount? character with
            | some count => double? (.digits count 0) folding line (column + 1) rest
            | none =>
                (escaped? character).bind fun meaning =>
                  double? .text (folding.push meaning) line (column + 1) rest
      | .digits missing value =>
          (Json.Token.hexValue? character).bind fun digit =>
            let value := 16 * value + digit
            if missing ≤ 1 then
              (character? value).bind fun meaning =>
                double? .text (folding.push meaning) line (column + 1) rest
            else double? (.digits (missing - 1) value) folding line (column + 1) rest
      | .text =>
          if character = '"' then some ⟨folding.join.text, ⟨rest, line, column + 1⟩, false⟩
          else if isSpace character then
            double? .text (folding.pushBlank character) line (column + 1) rest
          else if isBreak character then
            double? .text (folding.pushBreak character) (line + 1) 0 rest
          else if isDocumentMarker column (character :: rest) then none
          else if character = '\\' then double? .escape folding line (column + 1) rest
          else double? .text (folding.push character) line (column + 1) rest

end PropertyPanel.Yaml

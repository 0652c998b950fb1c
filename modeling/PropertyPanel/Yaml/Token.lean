/-
This file splits YAML text into tokens and finds its blocks from the indentation.
-/

import PropertyPanel.Yaml.Quotation

namespace PropertyPanel.Yaml

inductive Token where
  | documentStart
  | documentEnd
  | openSequence
  | openMapping
  | closeBlock
  | openFlowSequence
  | closeFlowSequence
  | openFlowMapping
  | closeFlowMapping
  | blockEntry
  | flowEntry
  | key
  | value
  | scalar (text : String) (plain : Bool)
  deriving DecidableEq

namespace Token

/-- A place where a key may have begun, which is known only when its colon is found. -/
structure KeyPlace where
  required : Bool
  index : Nat
  line : Nat
  column : Nat

/-- The scanner knows the open blocks by their indentation and may still insert earlier tokens. -/
structure Scanner where
  position : Position
  flowLevel : Nat
  indent : Int
  outerIndents : List Int
  keyAllowed : Bool
  keyPlaces : List (Option KeyPlace)
  reversed : List Token
  done : Bool

namespace Scanner

def start (text : List Char) : Scanner :=
  ⟨⟨text, 0, 0⟩, 0, -1, [], true, [none], [], false⟩

def isFlow (scanner : Scanner) : Bool := scanner.flowLevel ≠ 0

def emit (scanner : Scanner) (token : Token) : Scanner :=
  { scanner with reversed := token :: scanner.reversed }

/-- A token is inserted before the tokens that follow an index. -/
def insertAt (scanner : Scanner) (index : Nat) (token : Token) : Scanner :=
  let later := scanner.reversed.length - index
  { scanner with
    reversed := scanner.reversed.take later ++ token :: scanner.reversed.drop later }

def skip (scanner : Scanner) (count : Nat) : Scanner :=
  let position := scanner.position
  { scanner with
    position := ⟨position.rest.drop count, position.line, position.column + count⟩ }

def skipComment : Nat → List Char → Nat × List Char
  | column, [] => (column, [])
  | column, character :: rest =>
      if isBreak character then (column, character :: rest) else skipComment (column + 1) rest

/-- Blanks, comments and line ends before the next token are skipped. -/
def skipBlank (fuel : Nat) (scanner : Scanner) : Scanner :=
  match fuel with
  | 0 => scanner
  | fuel + 1 =>
      match scanner.position.rest with
      | [] => scanner
      | character :: rest =>
          let position := scanner.position
          if character = ' ' || (character = '\t' && (scanner.isFlow || !scanner.keyAllowed)) then
            skipBlank fuel
              { scanner with position := ⟨rest, position.line, position.column + 1⟩ }
          else if character = '#' then
            let (column, rest) := skipComment position.column (character :: rest)
            skipBlank fuel { scanner with position := ⟨rest, position.line, column⟩ }
          else if isBreak character then
            skipBlank fuel
              { scanner with
                position := ⟨rest, position.line + 1, 0⟩
                keyAllowed := scanner.keyAllowed || !scanner.isFlow }
          else scanner

/-- A key must be found on the line on which it begins. -/
def dropStaleKeys? (scanner : Scanner) : Option Scanner := do
  let keyPlaces ← scanner.keyPlaces.mapM fun place =>
    match place with
    | none => some none
    | some place =>
        if place.line < scanner.position.line then
          if place.required then none else some none
        else some (some place)
  return { scanner with keyPlaces }

/-- Deeper blocks end before a token at a column. -/
def unroll (scanner : Scanner) (column : Int) : Scanner :=
  if scanner.isFlow then scanner
  else
    let closed := (scanner.indent :: scanner.outerIndents).takeWhile fun indent => column < indent
    let remaining := (scanner.indent :: scanner.outerIndents).drop closed.length
    { scanner with
      indent := remaining.headD (-1)
      outerIndents := remaining.drop 1
      reversed := List.replicate closed.length closeBlock ++ scanner.reversed }

/-- A block begins at a column to the right of the block around it. -/
def roll (scanner : Scanner) (column index : Nat) (token : Token) : Scanner :=
  if scanner.isFlow || (column : Int) ≤ scanner.indent then scanner
  else
    { scanner.insertAt index token with
      indent := column
      outerIndents := scanner.indent :: scanner.outerIndents }

def rollHere (scanner : Scanner) (token : Token) : Scanner :=
  scanner.roll scanner.position.column scanner.reversed.length token

def dropKey? (scanner : Scanner) : Option Scanner :=
  match scanner.keyPlaces with
  | some place :: places =>
      if place.required then none else some { scanner with keyPlaces := none :: places }
  | _ => some scanner

/-- A key of a block must be found if its place is where the keys of the block begin. -/
def saveKey? (scanner : Scanner) : Option Scanner :=
  if scanner.keyAllowed then
    scanner.dropKey?.map fun scanner =>
      let required := !scanner.isFlow && scanner.indent = (scanner.position.column : Int)
      let place : KeyPlace :=
        ⟨required, scanner.reversed.length, scanner.position.line, scanner.position.column⟩
      { scanner with keyPlaces := some place :: scanner.keyPlaces.drop 1 }
  else some scanner

def finish? (scanner : Scanner) : Option Scanner :=
  (scanner.unroll (-1)).dropKey?.map fun scanner => { scanner with done := true }

def documentMarker? (scanner : Scanner) (token : Token) : Option Scanner :=
  (scanner.unroll (-1)).dropKey?.map fun scanner =>
    ({ scanner with keyAllowed := false }.skip 3).emit token

def openFlow? (scanner : Scanner) (token : Token) : Option Scanner :=
  scanner.saveKey?.map fun scanner =>
    ({ scanner with
        flowLevel := scanner.flowLevel + 1
        keyPlaces := none :: scanner.keyPlaces
        keyAllowed := true }.skip 1).emit token

def closeFlow? (scanner : Scanner) (token : Token) : Option Scanner :=
  scanner.dropKey?.map fun scanner =>
    ({ scanner with
        flowLevel := scanner.flowLevel - 1
        keyPlaces := if scanner.isFlow then scanner.keyPlaces.drop 1 else scanner.keyPlaces
        keyAllowed := false }.skip 1).emit token

def flowEntry? (scanner : Scanner) : Option Scanner :=
  scanner.dropKey?.map fun scanner =>
    ({ scanner with keyAllowed := true }.skip 1).emit flowEntry

def blockEntry? (scanner : Scanner) : Option Scanner :=
  if !scanner.isFlow && !scanner.keyAllowed then none
  else
    (scanner.rollHere openSequence).dropKey?.map fun scanner =>
      ({ scanner with keyAllowed := true }.skip 1).emit blockEntry

def key? (scanner : Scanner) : Option Scanner :=
  if !scanner.isFlow && !scanner.keyAllowed then none
  else
    (scanner.rollHere openMapping).dropKey?.map fun scanner =>
      ({ scanner with keyAllowed := !scanner.isFlow }.skip 1).emit key

/-- A colon makes a key of the place that was saved for one. -/
def value? (scanner : Scanner) : Option Scanner :=
  match scanner.keyPlaces with
  | some place :: places =>
      let keyed := (scanner.insertAt place.index key).roll place.column place.index openMapping
      some (({ keyed with keyPlaces := none :: places, keyAllowed := false }.skip 1).emit value)
  | _ =>
      if !scanner.isFlow && !scanner.keyAllowed then none
      else
        let rolled := scanner.rollHere openMapping
        some (({ rolled with keyAllowed := !scanner.isFlow }.skip 1).emit value)

/-- A scalar may turn out to be a key. -/
def scalar? (scanner : Scanner) (plain : Bool) (scan : Position → Option Scanned) :
    Option Scanner := do
  let saved ← scanner.saveKey?
  let scanned ← scan saved.position
  return { saved with position := scanned.position, keyAllowed := scanned.newLine }.emit
    (.scalar scanned.text plain)

def plainScalar? (scanner : Scanner) : Option Scanner :=
  scanner.scalar? true fun position =>
    plain? scanner.isFlow (scanner.indent + 1).toNat .start position.line position.column
      position.rest

def singleQuoted? (scanner : Scanner) : Option Scanner :=
  scanner.scalar? false fun position =>
    single? .start position.line (position.column + 1) (position.rest.drop 1)

def doubleQuoted? (scanner : Scanner) : Option Scanner :=
  scanner.scalar? false fun position =>
    double? .text .start position.line (position.column + 1) (position.rest.drop 1)

/-- No plain scalar begins with one of these, except before further text. -/
def isIndicator (character : Char) : Bool :=
  character ∈ ['-', '?', ':', ',', '[', ']', '\x7b', '\x7d', '#', '&', '*', '!', '|', '>', '\'',
    '"', '%', '@', '\x60']

def beginsPlain (flow : Bool) (character : Char) (rest : List Char) : Bool :=
  (!isIndicator character && !isSpace character) ||
    (character = '-' && !(rest.head?.map isSpace).getD false) ||
    (!flow && (character = '?' || character = ':') && !endsWord rest)

/-- Directives, anchors, aliases, tags and block scalars are not read. -/
def token? (scanner : Scanner) (character : Char) (rest : List Char) : Option Scanner :=
  let column := scanner.position.column
  let text := character :: rest
  let flow := scanner.isFlow
  if column = 0 && character = '%' then none
  else if column = 0 && isMarker '-' text then scanner.documentMarker? documentStart
  else if column = 0 && isMarker '.' text then scanner.documentMarker? documentEnd
  else if character = '[' then scanner.openFlow? openFlowSequence
  else if character = '\x7b' then scanner.openFlow? openFlowMapping
  else if character = ']' then scanner.closeFlow? closeFlowSequence
  else if character = '\x7d' then scanner.closeFlow? closeFlowMapping
  else if character = ',' then scanner.flowEntry?
  else if character = '-' && endsWord rest then scanner.blockEntry?
  else if character = '?' && (flow || endsWord rest) then scanner.key?
  else if character = ':' && (flow || endsWord rest) then scanner.value?
  else if character = '\'' then scanner.singleQuoted?
  else if character = '"' then scanner.doubleQuoted?
  else if beginsPlain flow character rest then scanner.plainScalar?
  else none

def next? (scanner : Scanner) : Option Scanner := do
  let scanner := scanner.skipBlank (scanner.position.rest.length + 1)
  let scanner ← scanner.dropStaleKeys?
  let scanner := scanner.unroll scanner.position.column
  match scanner.position.rest with
  | [] => scanner.finish?
  | character :: rest => scanner.token? character rest

/-- Each token takes at least one character of the text. -/
def run? : Nat → Scanner → Option (List Token)
  | 0, _ => none
  | fuel + 1, scanner =>
      scanner.next?.bind fun scanner =>
        if scanner.done then some scanner.reversed.reverse else run? fuel scanner

end Scanner

/-- All line ends are spelled alike, except the two separators. -/
def normalizeBreaks : List Char → List Char
  | [] => []
  | '\r' :: '\n' :: rest => '\n' :: normalizeBreaks rest
  | '\r' :: rest => '\n' :: normalizeBreaks rest
  | character :: rest =>
      (if character.toNat = 0x85 then '\n' else character) :: normalizeBreaks rest

/-- Control characters may not stand in a text. -/
def isAllowed (character : Char) : Bool :=
  let code := character.toNat
  code = 9 || code = 10 || code = 13 || (32 ≤ code && code ≤ 126) || code = 0x85 ||
    (0xa0 ≤ code && code ≤ 0xfffd) || 0x10000 ≤ code

/-- The tokens of a text, where a byte order mark may stand before the first one. -/
def scan? (text : String) : Option (List Token) :=
  let characters :=
    if text.toList.head? = some (Char.ofNat 0xfeff) then text.toList.drop 1 else text.toList
  if characters.all isAllowed then
    let characters := normalizeBreaks characters
    Scanner.run? (characters.length + 2) (.start characters)
  else none

end Token

end PropertyPanel.Yaml

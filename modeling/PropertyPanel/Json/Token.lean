/-
This file splits JSON text into tokens.
-/

import PropertyPanel.Source

namespace PropertyPanel.Json

inductive Token where
  | openList
  | closeList
  | openObject
  | closeObject
  | comma
  | colon
  | atom (value : Source.Atom)
  deriving DecidableEq

namespace Token

def punctuation? : Char → Option Token
  | '[' => some openList
  | ']' => some closeList
  | '\x7b' => some openObject
  | '\x7d' => some closeObject
  | ',' => some comma
  | ':' => some colon
  | _ => none

def isBlank (character : Char) : Bool :=
  character = ' ' || character = '\n' || character = '\r' || character = '\t'

def hexValue? (character : Char) : Option Nat :=
  if character.isDigit then some (character.toNat - '0'.toNat)
  else if 'a' ≤ character ∧ character ≤ 'f' then some (character.toNat - 'a'.toNat + 10)
  else if 'A' ≤ character ∧ character ≤ 'F' then some (character.toNat - 'A'.toNat + 10)
  else none

def isHighSurrogate (unit : Nat) : Bool := 0xd800 ≤ unit && unit < 0xdc00

def isLowSurrogate (unit : Nat) : Bool := 0xdc00 ≤ unit && unit < 0xe000

/-- The characters of a text so far, the first half of a pair, and whether a half was lost. -/
structure Quotation where
  reversed : List Char
  half : Option Nat
  broken : Bool

namespace Quotation

def start : Quotation := ⟨[], none, false⟩

def push (quotation : Quotation) (character : Char) : Quotation :=
  ⟨character :: quotation.reversed, none, quotation.broken || quotation.half.isSome⟩

/-- Two units that are halves of a pair stand for one character. -/
def pushUnit (quotation : Quotation) (unit : Nat) : Quotation :=
  if isHighSurrogate unit then
    ⟨quotation.reversed, some unit, quotation.broken || quotation.half.isSome⟩
  else if isLowSurrogate unit then
    match quotation.half with
    | some high =>
        let code := 0x10000 + (high - 0xd800) * 0x400 + (unit - 0xdc00)
        ⟨Char.ofNat code :: quotation.reversed, none, quotation.broken⟩
    | none => ⟨quotation.reversed, none, true⟩
  else quotation.push (Char.ofNat unit)

def finish (quotation : Quotation) : Source.Atom :=
  if quotation.broken || quotation.half.isSome then .irregular
  else .text (String.ofList quotation.reversed.reverse)

end Quotation

def escaped? : Char → Option Char
  | '"' => some '"'
  | '\\' => some '\\'
  | '/' => some '/'
  | 'b' => some (Char.ofNat 8)
  | 'f' => some (Char.ofNat 12)
  | 'n' => some '\n'
  | 'r' => some '\r'
  | 't' => some '\t'
  | _ => none

def isWordPart (character : Char) : Bool :=
  character.isAlphanum || character = '+' || character = '-' || character = '.'

/-- The exponent is a nonempty run of digits after an optional sign. -/
def exponent? : List Char → Option Int
  | [] => some 0
  | mark :: rest =>
      if mark ≠ 'e' ∧ mark ≠ 'E' then none
      else
        let negative := rest.head? = some '-'
        let digits := if negative ∨ rest.head? = some '+' then rest.drop 1 else rest
        if digits.isEmpty || !digits.all Char.isDigit then none
        else
          let value : Int := DecimalSpelling.digitsValue digits
          some (if negative then -value else value)

/-- A whole part has no leading zero, and a point has digits on both sides. -/
def spelling? (word : List Char) : Option (DecimalSpelling × Bool) := do
  let negative := word.head? = some '-'
  let unsigned := if negative then word.drop 1 else word
  let whole := unsigned.takeWhile Char.isDigit
  let rest := unsigned.dropWhile Char.isDigit
  if whole.isEmpty || (whole.head? = some '0' && whole.length ≠ 1) then none
  if rest.head? = some '.' then
    let fraction := (rest.drop 1).takeWhile Char.isDigit
    if fraction.isEmpty then none
    let exponent ← exponent? ((rest.drop 1).dropWhile Char.isDigit)
    return (⟨negative, whole, fraction, exponent⟩, false)
  else
    let exponent ← exponent? rest
    return (⟨negative, whole, [], exponent⟩, rest.isEmpty)

/-- Integers of 64 bits keep their digits, and minus zero is not an integer. -/
def number? (word : List Char) : Option Source.Atom := do
  let (spelling, integral) ← spelling? word
  let size := DecimalSpelling.digitsValue spelling.whole
  let exact :=
    if spelling.negative then decide (0 < size ∧ size ≤ Nat.pow 2 63)
    else decide (size < Nat.pow 2 64)
  if integral && exact then
    return .number (.integer (if spelling.negative then -(size : Int) else size))
  else
    match spelling.stepwise? with
    | some value => return .number (.real value)
    | none => return .irregular

def word? (word : List Char) : Option Token :=
  match String.ofList word with
  | "null" => some (atom .null)
  | "true" => some (atom (.flag true))
  | "false" => some (atom (.flag false))
  | _ => (number? word).map atom

/-- The reader of characters is between tokens, in a word, or in a quoted text. -/
inductive Mode where
  | between
  | word (reversed : List Char)
  | quoted (quotation : Quotation)
  | escape (quotation : Quotation)
  | unit (quotation : Quotation) (missing value : Nat)

/-- A character outside words and quoted texts is blank, punctuation or the start of one. -/
def enter? (character : Char) : Option (Mode × List Token) :=
  if isBlank character then some (.between, [])
  else if character = '"' then some (.quoted .start, [])
  else if isWordPart character then some (.word [character], [])
  else (punctuation? character).map fun token => (.between, [token])

/-- A step reads one character and gives the tokens that it completes. -/
def step? (mode : Mode) (character : Char) : Option (Mode × List Token) :=
  match mode with
  | .between => enter? character
  | .word reversed =>
      if isWordPart character then some (.word (character :: reversed), [])
      else do
        let token ← word? reversed.reverse
        let (next, tokens) ← enter? character
        return (next, token :: tokens)
  | .quoted quotation =>
      if character = '"' then some (.between, [atom quotation.finish])
      else if character = '\\' then some (.escape quotation, [])
      else if character.toNat < 32 then none
      else some (.quoted (quotation.push character), [])
  | .escape quotation =>
      if character = 'u' then some (.unit quotation 4 0, [])
      else (escaped? character).map fun meaning => (.quoted (quotation.push meaning), [])
  | .unit quotation missing value =>
      (hexValue? character).map fun digit =>
        let value := 16 * value + digit
        if missing ≤ 1 then (.quoted (quotation.pushUnit value), [])
        else (.unit quotation (missing - 1) value, [])

def scanFrom? (mode : Mode) (reversed : List Token) : List Char → Option (List Token)
  | [] =>
      match mode with
      | .between => some reversed.reverse
      | .word word => (word? word.reverse).map fun token => (token :: reversed).reverse
      | _ => none
  | character :: rest =>
      (step? mode character).bind fun (next, tokens) =>
        scanFrom? next (tokens.reverse ++ reversed) rest

/-- The tokens of a text, if every part of it is one. -/
def scan? (text : String) : Option (List Token) := scanFrom? .between [] text.toList

end Token

end PropertyPanel.Json

/-
This file defines the plain words of TOML, which are flags, numbers and moments.
-/

import PropertyPanel.Number.Decimal
import PropertyPanel.Toml.Basic

namespace PropertyPanel.Toml

/-- A single underscore may stand between two digits. -/
def ungroup? (isDigit : Char → Bool) (word : List Char) : Option (List Char) :=
  let groups := (String.ofList word).splitOn "_"
  if groups.any String.isEmpty then none
  else
    let digits := groups.flatMap String.toList
    if digits.all isDigit then some digits else none

def baseDigit? (base : Nat) (character : Char) : Option Nat :=
  let value? :=
    if character.isDigit then some (character.toNat - '0'.toNat)
    else if character.toLower.isLower then some (character.toLower.toNat - 'a'.toNat + 10)
    else none
  value?.filter fun value => value < base

/-- Digits after the mark of a base have no sign and may begin with zeros. -/
def isBased (base : Nat) (word : List Char) : Bool :=
  match ungroup? (fun character => (baseDigit? base character).isSome) word with
  | some digits =>
      let size :=
        digits.foldl (fun value digit => base * value + (baseDigit? base digit).getD 0) 0
      size < Nat.pow 2 63
  | none => false

def splitSign (word : List Char) : Bool × List Char :=
  match word with
  | '-' :: rest => (true, rest)
  | '+' :: rest => (false, rest)
  | _ => (false, word)

/-- The whole part of a number begins with a zero only if it is zero. -/
def whole? (word : List Char) : Option (List Char) :=
  (ungroup? Char.isDigit word).filter fun digits => digits.head? ≠ some '0' || word.length = 1

def isInteger (word : List Char) : Bool :=
  match word with
  | '0' :: 'x' :: digits => isBased 16 digits
  | '0' :: 'o' :: digits => isBased 8 digits
  | '0' :: 'b' :: digits => isBased 2 digits
  | _ =>
      let (negative, digits) := splitSign word
      match whole? digits with
      | some digits =>
          let size := DecimalSpelling.digitsValue digits
          size < Nat.pow 2 63 || (negative && size = Nat.pow 2 63)
      | none => false

def isExponentMark (character : Char) : Bool := character = 'e' || character = 'E'

/-- An absent exponent is zero. -/
def exponent? : List Char → Option Int
  | [] => some 0
  | _ :: word =>
      let (negative, digits) := splitSign word
      (ungroup? Char.isDigit digits).map fun digits =>
        let size : Int := DecimalSpelling.digitsValue digits
        if negative then -size else size

/-- A real number has a fraction or an exponent and is not above the range. -/
def isReal (word : List Char) : Bool :=
  let (negative, unsigned) := splitSign word
  let mantissa := unsigned.takeWhile fun character => !isExponentMark character
  let power := unsigned.dropWhile fun character => !isExponentMark character
  let whole := mantissa.takeWhile (· ≠ '.')
  let pointed := mantissa.dropWhile (· ≠ '.')
  let fraction? := if pointed.isEmpty then some [] else ungroup? Char.isDigit (pointed.drop 1)
  if unsigned = "inf".toList || unsigned = "nan".toList then true
  else if pointed.isEmpty && power.isEmpty then false
  else
    match whole? whole, fraction?, exponent? power with
    | some whole, some fraction, some exponent =>
        negative || (DecimalSpelling.nearest? ⟨negative, whole, fraction, exponent⟩).isSome
    | _, _, _ => false

/-- A number of a fixed count of digits within two bounds. -/
def bounded? (count low high : Nat) (word : List Char) : Option (Nat × List Char) :=
  let digits := word.take count
  let value := DecimalSpelling.digitsValue digits
  if digits.length = count && digits.all Char.isDigit && low ≤ value && value ≤ high then
    some (value, word.drop count)
  else none

def mark? (expected : Char) : List Char → Option (List Char)
  | character :: rest => if character = expected then some rest else none
  | [] => none

def monthLength (year month : Nat) : Nat :=
  if month = 2 then
    if year % 4 = 0 && (year % 100 ≠ 0 || year % 400 = 0) then 29 else 28
  else if month ∈ [4, 6, 9, 11] then 30
  else 31

/-- What follows a date of the calendar. -/
def date? (word : List Char) : Option (List Char) := do
  let (year, rest) ← bounded? 4 0 9999 word
  let (month, rest) ← bounded? 2 1 12 (← mark? '-' rest)
  let (_, rest) ← bounded? 2 1 (monthLength year month) (← mark? '-' rest)
  return rest

/-- What follows a time of the day, which may have a leap second. -/
def time? (word : List Char) : Option (List Char) := do
  let (_, rest) ← bounded? 2 0 23 word
  let (_, rest) ← bounded? 2 0 59 (← mark? ':' rest)
  let (_, rest) ← bounded? 2 0 60 (← mark? ':' rest)
  match rest with
  | '.' :: fraction =>
      if (fraction.head?.map Char.isDigit).getD false then
        return fraction.dropWhile Char.isDigit
      else none
  | _ => return rest

def isOffset (word : List Char) : Bool :=
  match word with
  | [] => true
  | ['Z'] => true
  | ['z'] => true
  | sign :: rest =>
      let offset? := do
        let (_, rest) ← bounded? 2 0 23 rest
        let (_, rest) ← bounded? 2 0 59 (← mark? ':' rest)
        return rest
      (sign = '+' || sign = '-') && offset?.map List.isEmpty = some true

/-- A date alone may still be followed by a blank and a time. -/
def isDate (word : List Char) : Bool := (date? word).map List.isEmpty = some true

def isMoment (word : List Char) : Bool :=
  match date? word with
  | some [] => true
  | some (separator :: rest) =>
      separator ∈ ['T', 't', ' '] && ((time? rest).map isOffset).getD false
  | none => (time? word).map List.isEmpty = some true

def plain? (word : String) : Option Value :=
  let characters := word.toList
  if word = "true" then some (.flag true)
  else if word = "false" then some (.flag false)
  else if isInteger characters || isReal characters || isMoment characters then
    some (.plain word)
  else none

end PropertyPanel.Toml

/-
This file gives the plain scalars of YAML their meaning.
-/

import PropertyPanel.Json.Token

namespace PropertyPanel.Yaml

def nullWords : List String := ["", "null", "Null", "NULL", "~"]

def trueWords : List String := ["true", "True", "TRUE"]

def falseWords : List String := ["false", "False", "FALSE"]

def digitsIn? (base : Nat) (digits : List Char) : Option Nat :=
  if digits.isEmpty then none
  else
    digits.foldlM (fun value character =>
      (Json.Token.hexValue? character).bind fun digit =>
        if digit < base then some (base * value + digit) else none) 0

/-- A leading zero before further digits makes a text of the digits. -/
def isPadded (digits : List Char) : Bool :=
  2 ≤ digits.length && digits.head? = some '0' && digits.all Char.isDigit

/-- The digits of an integer may follow a mark of their base. -/
def size? : List Char → Option Nat
  | '0' :: 'x' :: digits => digitsIn? 16 digits
  | '0' :: 'o' :: digits => digitsIn? 8 digits
  | '0' :: 'b' :: digits => digitsIn? 2 digits
  | digits => if isPadded digits then none else digitsIn? 10 digits

/-- The number without its sign, and whether it is negative. -/
def splitSign : List Char → Bool × List Char
  | '-' :: rest => (true, rest)
  | '+' :: rest => (false, rest)
  | characters => (false, characters)

/-- An integer that fits in 128 bits but not in 64 has no meaning. -/
def integer? (characters : List Char) : Option Source.Atom :=
  let (negative, digits) := splitSign characters
  (size? digits).bind fun size =>
    if negative then
      if size ≤ Nat.pow 2 63 then some (.number (.integer (-(size : Int))))
      else if size ≤ Nat.pow 2 127 then some .irregular
      else none
    else if size < Nat.pow 2 64 then some (.number (.integer size))
    else if size < Nat.pow 2 128 then some .irregular
    else none

/-- A decimal has a digit before or after its point. -/
def real? (characters : List Char) : Option Source.Atom :=
  let (negative, digits) := splitSign characters
  let whole := digits.takeWhile Char.isDigit
  let rest := digits.dropWhile Char.isDigit
  let pointed := rest.head? = some '.'
  let fraction := if pointed then (rest.drop 1).takeWhile Char.isDigit else []
  let rest := if pointed then (rest.drop 1).dropWhile Char.isDigit else rest
  if isPadded digits || (whole.isEmpty && fraction.isEmpty) then none
  else
    (Json.Token.exponent? rest).bind fun exponent =>
      (DecimalSpelling.nearest? ⟨negative, whole, fraction, exponent⟩).map fun value =>
        .number (.real value)

def infiniteWords : List String :=
  [".inf", ".Inf", ".INF", "+.inf", "+.Inf", "+.INF", "-.inf", "-.Inf", "-.INF",
   ".nan", ".NaN", ".NAN"]

def atom (word : String) : Source.Atom :=
  if word ∈ nullWords then .null
  else if word ∈ trueWords then .flag true
  else if word ∈ falseWords then .flag false
  else if word ∈ infiniteWords then .infinite
  else
    ((integer? word.toList).orElse fun _ => real? word.toList).getD (.text word)

/-- A plain scalar stands for its own text where a text is wanted. -/
def plainLeaf (word : String) : Source.Leaf := ⟨atom word, some word⟩

end PropertyPanel.Yaml

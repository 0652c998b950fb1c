/-
This file reads integers of 64 bits from decimal text.
-/

import PropertyPanel.Number.Decimal

namespace PropertyPanel.Integer

def ofInt? (value : Int) : Option Int64 :=
  if Int64.minValue.toInt ≤ value ∧ value ≤ Int64.maxValue.toInt then some (Int64.ofInt value)
  else none

/-- A text is an optional sign and a nonempty run of digits. -/
def parse? (text : String) : Option Int64 :=
  let characters := text.toList
  let negative := characters.head? = some '-'
  let digits := if negative ∨ characters.head? = some '+' then characters.drop 1 else characters
  if digits.isEmpty || !digits.all Char.isDigit then none
  else
    let size : Int := DecimalSpelling.digitsValue digits
    ofInt? (if negative then -size else size)

end PropertyPanel.Integer

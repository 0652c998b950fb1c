/-
This file reads decimal numbers and writes the shortest decimal that reads back.
-/

import PropertyPanel.Number.Binary64

namespace PropertyPanel

/-- The digits after the point of a decimal below one, and the power of ten it is scaled by. -/
structure Decimal where
  digits : Nat
  exponent : Int
  deriving DecidableEq

namespace Decimal

/-- The number of decimal digits of a positive number. -/
def width (number : Nat) : Nat := (Nat.toDigits 10 number).length

/-- The power of ten just above a positive quotient. -/
def magnitude (numerator denominator : Nat) : Int :=
  if denominator ≤ numerator then width (numerator / denominator)
  else
    let places := width (denominator / numerator)
    if numerator * Nat.pow 10 (places - 1) = denominator then 2 - places else 1 - places

/-- The quotient, the ends of its interval and their common denominator. -/
structure Interval where
  low : Nat
  value : Nat
  high : Nat
  denominator : Nat
  closed : Bool

/-- The interval holds the rational numbers that round to the number. -/
def Interval.around (number : Binary64) : Interval :=
  let unit := if 0 ≤ number.exponent then Nat.pow 2 number.exponent.toNat else 1
  let denominator := if 0 ≤ number.exponent then 1 else Nat.pow 2 (-number.exponent).toNat
  let below :=
    if number.significand = Nat.pow 2 52 ∧ Binary64.leastExponent < number.exponent then 1 else 2
  { low := (4 * number.significand - below) * unit
    value := 4 * number.significand * unit
    high := (4 * number.significand + 2) * unit
    denominator := 4 * denominator
    closed := number.significand % 2 = 0 }

/-- The candidate is a multiple of the step, which is a power of ten. -/
def Interval.holds (interval : Interval) (candidate : Nat) (step : Int) : Bool :=
  let scaled := candidate * interval.denominator * Nat.pow 10 step.toNat
  let factor := Nat.pow 10 (-step).toNat
  if interval.closed then
    decide (interval.low * factor ≤ scaled) && decide (scaled ≤ interval.high * factor)
  else
    decide (interval.low * factor < scaled) && decide (scaled < interval.high * factor)

/-- The better neighbour of the value on the grid of a step, if one is in the interval. -/
def Interval.onGrid? (interval : Interval) (step : Int) : Option Nat :=
  let factor := Nat.pow 10 (-step).toNat
  let unit := interval.denominator * Nat.pow 10 step.toNat
  let below := interval.value * factor / unit
  let rest := interval.value * factor % unit
  match interval.holds below step, interval.holds (below + 1) step with
  | false, false => none
  | true, false => some below
  | false, true => some (below + 1)
  | true, true =>
      if 2 * rest < unit then some below
      else if unit < 2 * rest then some (below + 1)
      else some (below + below % 2)

/-- The digits of a positive number that no shorter decimal can replace. -/
def shortest (number : Binary64) : Decimal :=
  let interval := Interval.around number
  let exponent := magnitude interval.value interval.denominator
  let found := (List.range 17).findSome? fun fewer : Nat =>
    (interval.onGrid? (exponent - (fewer + 1 : Nat))).map fun digits => (digits, fewer + 1)
  match found with
  | some (digits, places) =>
      if digits = Nat.pow 10 places then ⟨1, exponent + 1⟩ else ⟨digits, exponent⟩
  | none => ⟨0, 0⟩

end Decimal

/-- The layout of a decimal says when it is written without an exponent. -/
structure DecimalLayout where
  leastPositional : Int
  greatestPositional : Int

namespace DecimalLayout

/-- Numbers from a hundred-thousandth to below ten to the sixteenth are written in full. -/
def standard : DecimalLayout := ⟨-4, 16⟩

def zeros (count : Nat) : String := String.ofList (List.replicate count '0')

/-- An integral number keeps one zero after its point. -/
def positional (digits : String) (point : Int) : String :=
  if point ≤ 0 then "0." ++ zeros (-point).toNat ++ digits
  else if digits.length ≤ point.toNat then
    digits ++ zeros (point.toNat - digits.length) ++ ".0"
  else
    String.ofList (digits.toList.take point.toNat) ++ "." ++
      String.ofList (digits.toList.drop point.toNat)

/-- The exponent always has a sign, and a lone digit has no point. -/
def scientific (digits : String) (exponent : Int) : String :=
  let fraction := String.ofList (digits.toList.drop 1)
  let mantissa := String.ofList (digits.toList.take 1) ++
    (if fraction.isEmpty then "" else "." ++ fraction)
  let sign := if exponent < 0 then "e-" else "e+"
  mantissa ++ sign ++ toString exponent.natAbs

def write (layout : DecimalLayout) (number : Binary64) : String :=
  let sign := if number.negative then "-" else ""
  if number.isZero then sign ++ "0.0"
  else
    let decimal := Decimal.shortest number
    let digits := toString decimal.digits
    if layout.leastPositional ≤ decimal.exponent ∧
        decimal.exponent ≤ layout.greatestPositional then
      sign ++ positional digits decimal.exponent
    else sign ++ scientific digits (decimal.exponent - 1)

end DecimalLayout

/-- The parts of a decimal as they are spelled. -/
structure DecimalSpelling where
  negative : Bool
  whole : List Char
  fraction : List Char
  exponent : Int

namespace DecimalSpelling

def digitsValue (digits : List Char) : Nat :=
  digits.foldl (fun value digit => 10 * value + (digit.toNat - '0'.toNat)) 0

/-- The powers of ten that a single scaling may use. -/
def greatestScale : Nat := 308

/-- The number is scaled by one power of ten at a time, and each scaling rounds. -/
def scaleByTen (number : Binary64) (exponent : Int) : Option Binary64 :=
  if number.isZero then some number
  else if 0 ≤ exponent then
    if exponent.toNat ≤ greatestScale then
      (Binary64.nearest false (Nat.pow 10 exponent.toNat) 1).bind fun power =>
        number.scale power.magnitude.1 power.magnitude.2
    else none
  else
    let step := min exponent.natAbs greatestScale
    (Binary64.nearest false (Nat.pow 10 step) 1).bind fun power =>
      (number.scale power.magnitude.2 power.magnitude.1).bind fun scaled =>
        if exponent.natAbs ≤ greatestScale then some scaled
        else scaleByTen scaled (exponent + greatestScale)
termination_by exponent.natAbs
decreasing_by simp only [greatestScale] at *; omega

/-- The leading digits that fit in 64 bits, and the number of digits left over. -/
def leadingDigits : Nat → List Char → Nat × Nat
  | value, [] => (value, 0)
  | value, digit :: rest =>
      let next := 10 * value + (digit.toNat - '0'.toNat)
      if next < Nat.pow 2 64 then leadingDigits next rest else (value, rest.length + 1)

/-- The leading digits are rounded first and the power of ten is applied to the result. -/
def stepwise? (spelling : DecimalSpelling) : Option Binary64 :=
  let (whole, wholeLeft) := leadingDigits 0 spelling.whole
  let (value, fractionLeft) := leadingDigits whole spelling.fraction
  (Binary64.nearest spelling.negative value 1).bind fun number =>
    scaleByTen number
      (spelling.exponent + wholeLeft - (spelling.fraction.length - fractionLeft : Nat))

/-- The exact decimal is rounded once. -/
def nearest? (spelling : DecimalSpelling) : Option Binary64 :=
  let digits := spelling.whole ++ spelling.fraction
  let value := digitsValue digits
  let exponent := spelling.exponent - spelling.fraction.length
  if value = 0 then some (Binary64.zero spelling.negative)
  else if 400 < exponent then none
  else if exponent + digits.length < -400 then some (Binary64.zero spelling.negative)
  else if 0 ≤ exponent then
    Binary64.nearest spelling.negative (value * Nat.pow 10 exponent.toNat) 1
  else Binary64.nearest spelling.negative value (Nat.pow 10 (-exponent).toNat)

end DecimalSpelling

end PropertyPanel

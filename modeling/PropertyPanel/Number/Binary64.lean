/-
This file rounds rational numbers to binary floating point numbers of 53 significant bits.
-/

namespace PropertyPanel

/-- The number is `significand * 2 ^ exponent` with a sign, so that zero has two forms. -/
structure Binary64 where
  negative : Bool
  significand : Nat
  exponent : Int
  deriving DecidableEq

namespace Binary64

/-- The exponent of the smallest positive number. -/
def leastExponent : Int := -1074

/-- A finite number has no larger exponent than this one. -/
def greatestExponent : Int := 971

def zero (negative : Bool) : Binary64 := ⟨negative, 0, leastExponent⟩

def isZero (number : Binary64) : Bool := number.significand == 0

/-- A quotient is rounded to the nearest integer, and a half goes to the even neighbour. -/
def roundQuotient (numerator denominator : Nat) : Nat :=
  let quotient := numerator / denominator
  let remainder := numerator % denominator
  if 2 * remainder < denominator then quotient
  else if denominator < 2 * remainder then quotient + 1
  else quotient + quotient % 2

/-- The quotient is divided by a power of two before it is rounded. -/
def roundScaled (numerator denominator : Nat) (exponent : Int) : Nat :=
  if 0 ≤ exponent then roundQuotient numerator (denominator * Nat.pow 2 exponent.toNat)
  else roundQuotient (numerator * Nat.pow 2 (-exponent).toNat) denominator

/-- The exponent at which the quotient has 53 bits before the point. -/
def bitExponent (numerator denominator : Nat) : Int :=
  let guess : Int := numerator.log2 - denominator.log2 - 52
  let fits :=
    if 0 ≤ guess then denominator * Nat.pow 2 guess.toNat * Nat.pow 2 52 ≤ numerator
    else denominator * Nat.pow 2 52 ≤ numerator * Nat.pow 2 (-guess).toNat
  if fits then guess else guess - 1

/-- The nearest number to a nonnegative quotient, if it is not above the range. -/
def nearest (negative : Bool) (numerator denominator : Nat) : Option Binary64 :=
  if numerator = 0 then some (zero negative)
  else
    let exponent := max leastExponent (bitExponent numerator denominator)
    let significand := roundScaled numerator denominator exponent
    let carried := significand = Nat.pow 2 53
    let exponent := if carried then exponent + 1 else exponent
    let significand := if carried then Nat.pow 2 52 else significand
    if greatestExponent < exponent then none
    else some ⟨negative, significand, exponent⟩

/-- The number without its sign is the quotient of these two. -/
def magnitude (number : Binary64) : Nat × Nat :=
  if 0 ≤ number.exponent then (number.significand * Nat.pow 2 number.exponent.toNat, 1)
  else (number.significand, Nat.pow 2 (-number.exponent).toNat)

/-- The product is the nearest number to the exact product with a quotient. -/
def scale (number : Binary64) (numerator denominator : Nat) : Option Binary64 :=
  nearest number.negative (number.magnitude.1 * numerator) (number.magnitude.2 * denominator)

end Binary64

end PropertyPanel

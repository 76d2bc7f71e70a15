import Stencil.Numeral.Integer

/-!
# Floating-point numbers in decimal

A finite floating-point number is written with the fewest significant digits that read back as the
same number. Of the decimals with that many digits the nearest one is taken, and the larger one of
two that are equally near. The digits are written out in full, never with an exponent.

All comparisons are made between natural numbers, after multiplying by a common scale.
-/

set_option autoImplicit false

namespace Stencil.Numeral

/-- A positive number and the interval of reals that round to it, as multiples of one common unit.
The unit is the largest one that divides all three numbers and is at most one. -/
structure Rounding where
  /-- The number of units in one. -/
  one : Nat
  value : Nat
  lower : Nat
  upper : Nat
  /-- Whether the ends belong to the interval. -/
  closed : Bool

namespace Rounding

/-- The interval of a positive double from its exponent field and its fraction field. The interval
reaches half way to both neighbours, and the lower neighbour of a power of two is twice as near. -/
def ofFields (exponent fraction : Nat) : Rounding :=
  let mantissa := if exponent = 0 then fraction else fraction + Nat.pow 2 52
  let power := max exponent 1
  let below := if fraction = 0 ∧ 1 < exponent then 1 else 2
  let scale := Nat.pow 2 (power - 1077)
  { one := Nat.pow 2 (1077 - power)
    value := 4 * mantissa * scale
    lower := (4 * mantissa - below) * scale
    upper := (4 * mantissa + 2) * scale
    closed := mantissa % 2 = 0 }

def stretch (factor : Nat) (rounding : Rounding) : Rounding :=
  { rounding with
    value := rounding.value * factor
    lower := rounding.lower * factor
    upper := rounding.upper * factor }

/-- Whether a number of units rounds to the value. -/
def holds (rounding : Rounding) (number : Nat) : Bool :=
  if rounding.closed then rounding.lower ≤ number && number ≤ rounding.upper
  else rounding.lower < number && number < rounding.upper

/-- The multiple of `step` that rounds to the value: the nearer one of the two neighbours of the
value where both do, and the larger one of two equally near. -/
def onGrid? (rounding : Rounding) (step : Nat) : Option Nat :=
  let below := rounding.value / step
  let above := below + 1
  match rounding.holds (below * step), rounding.holds (above * step) with
  | true, true =>
      some (if above * step - rounding.value ≤ rounding.value - below * step then above else below)
  | true, false => some below
  | false, true => some above
  | false, false => none

/-- Decimal places by which every value is shifted to the left, enough for the smallest double. -/
def shift : Nat := 350

/-- The fewest digits that round to the value, and the power of ten that they multiply. A value
that is rounded up to a power of ten has the single digit one. -/
def shortest (rounding : Rounding) : Nat × Int :=
  let stretched := rounding.stretch (Nat.pow 10 shift)
  let length := (Nat.toDigits 10 (stretched.value / stretched.one)).length
  let onGrid (count : Nat) : Option (Nat × Int) :=
    (stretched.onGrid? (stretched.one * Nat.pow 10 (length - count))).map fun digits =>
      if digits = Nat.pow 10 count then (1, (length : Int) - shift)
      else (digits, (length : Int) - count - shift)
  ((List.range' 1 17).findSome? onGrid).getD (0, 0)

end Rounding

/-- `digits` times a power of ten, written out without an exponent. -/
def positional (digits : Nat) (power : Int) : Text :=
  let written := ofNat digits
  if 0 ≤ power then written ++ List.replicate power.toNat '0'
  else
    let places := power.natAbs
    let padded := List.replicate (places + 1 - written.length) '0' ++ written
    padded.take (padded.length - places) ++ '.' :: padded.drop (padded.length - places)

def ofFloat (number : Float) : Text :=
  let bits := number.toBits.toNat
  let negative := bits / Nat.pow 2 63 = 1
  let exponent := bits / Nat.pow 2 52 % Nat.pow 2 11
  let fraction := bits % Nat.pow 2 52
  if exponent = 2047 ∧ fraction ≠ 0 then ['N', 'a', 'N']
  else
    let magnitude :=
      if exponent = 2047 then ['i', 'n', 'f']
      else if exponent = 0 ∧ fraction = 0 then ['0']
      else
        let (digits, power) := (Rounding.ofFields exponent fraction).shortest
        positional digits power
    if negative then '-' :: magnitude else magnitude

end Stencil.Numeral

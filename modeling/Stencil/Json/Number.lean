import Stencil.Json.Basic

/-!
# JSON numbers

A number without fraction and exponent that fits a signed word of 64 bits is an integer. Every other
number is a floating-point number: as many of its leading digits as fit an unsigned word of 64 bits
are kept, and their floating-point value is multiplied or divided by a power of ten. A number that
is too large for this is refused.
-/

set_option autoImplicit false

namespace Stencil.Json

/-- Adds decimal digits to a significand for as long as it fits an unsigned word of 64 bits. Gives
the significand and the digits left over. -/
def absorb (significand : Nat) : Text → Nat × Text
  | [] => (significand, [])
  | digit :: digits =>
      let larger := 10 * significand + (digit.toNat - '0'.toNat)
      if larger < Nat.pow 2 64 then absorb larger digits else (significand, digit :: digits)

def powerOfTen (power : Nat) : Float := Float.ofScientific 1 false power

/-- A number multiplied by a power of ten, where negative powers are divided out in steps of 308
decimal places at most. There is no result above the largest floating-point number. -/
def scale? : (steps : Nat) → (number : Float) → (power : Int) → Option Float
  | 0, number, _ => some number
  | steps + 1, number, power =>
      if power.natAbs ≤ 308 then
        if 0 ≤ power then
          let product := number * powerOfTen power.natAbs
          if product.isInf then none else some product
        else some (number / powerOfTen power.natAbs)
      else if number == 0 then some number
      else if 0 ≤ power then none
      else scale? steps (number / powerOfTen 308) (power + 308)

/-- The floating-point number with a sign, a significand and a power of ten. Four steps of scaling
take any significand to zero. -/
def real? (negative : Bool) (significand : Nat) (power : Int) : Option Json :=
  (scale? 4 significand.toUInt64.toFloat power).map fun magnitude =>
    .real (if negative then -magnitude else magnitude)

/-- The number with a sign and a significand that fits an unsigned word. Zero with a minus sign is a
floating-point number, and so is every number that fits no signed word. -/
def whole (negative : Bool) (significand : Nat) : Json :=
  if negative then
    if significand ≠ 0 ∧ significand ≤ Nat.pow 2 63 then .integer (Int64.ofInt (-significand))
    else .real (-significand.toUInt64.toFloat)
  else if significand < Nat.pow 2 63 then .integer (Int64.ofInt significand)
  else .real significand.toUInt64.toFloat

/-- Reads the exponent of a number: nothing, or a letter, an optional sign and digits. -/
def exponent? : Text → Option Int
  | [] => some 0
  | letter :: rest => if letter = 'e' ∨ letter = 'E' then Numeral.toInt? rest else none

/-- Reads an unsigned number: digits without a needless leading zero, then an optional fraction and
an optional exponent. -/
def unsigned? (negative : Bool) (text : Text) : Option Json :=
  let digits := text.takeWhile Char.isDigit
  let rest := text.dropWhile Char.isDigit
  if digits = [] ∨ (digits.head? = some '0' ∧ digits.length ≠ 1) then none
  else
    let (significand, dropped) := absorb 0 digits
    match rest with
    | [] =>
        if dropped = [] then some (whole negative significand)
        else real? negative significand dropped.length
    | '.' :: rest =>
        let fraction := rest.takeWhile Char.isDigit
        if fraction = [] then none
        else
          let (extended, ignored) := absorb significand fraction
          (exponent? (rest.dropWhile Char.isDigit)).bind fun exponent =>
            real? negative extended (dropped.length - (fraction.length - ignored.length) + exponent)
    | rest =>
        (exponent? rest).bind fun exponent =>
          real? negative significand (dropped.length + exponent)

def number? : Text → Option Json
  | '-' :: magnitude => unsigned? true magnitude
  | magnitude => unsigned? false magnitude

end Stencil.Json

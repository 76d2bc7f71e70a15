import Stencil.Text.Basic

/-!
# Decimal integers

Writing integers in decimal, and reading them with an optional sign and any number of leading zeros.
-/

set_option autoImplicit false

namespace Stencil.Numeral

/-- The decimal digits of a natural number, without leading zeros. -/
def ofNat (number : Nat) : Text := Nat.toDigits 10 number

/-- An integer in decimal, with a minus sign when it is negative. -/
def ofInt (number : Int) : Text :=
  if number < 0 then '-' :: ofNat number.natAbs else ofNat number.natAbs

/-- The number written by a non-empty run of the digits `0` to `9`. -/
def digits? (text : Text) : Option Nat :=
  if text ≠ [] ∧ text.all Char.isDigit then
    some (text.foldl (fun number digit => 10 * number + (digit.toNat - '0'.toNat)) 0)
  else none

/-- Reads a natural number, which may carry a plus sign. -/
def toNat? : Text → Option Nat
  | '+' :: digits => digits? digits
  | digits => digits? digits

/-- Reads an integer, which may carry either sign. -/
def toInt? : Text → Option Int
  | '+' :: digits => (digits? digits).map Int.ofNat
  | '-' :: digits => (digits? digits).map fun number => -Int.ofNat number
  | digits => (digits? digits).map Int.ofNat

def toInt64? (text : Text) : Option Int64 :=
  match toInt? text with
  | none => none
  | some number =>
      if Int64.minValue.toInt ≤ number ∧ number ≤ Int64.maxValue.toInt then
        some (Int64.ofInt number)
      else none

end Stencil.Numeral

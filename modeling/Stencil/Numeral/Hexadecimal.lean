import Stencil.Text.Basic

/-!
# Hexadecimal numbers
-/

set_option autoImplicit false

namespace Stencil.Numeral

/-- The last hexadecimal digits of a number, in small letters. -/
def hexDigits : (count number : Nat) → Text
  | 0, _ => []
  | count + 1, number => hexDigits count (number / 16) ++ [Nat.digitChar (number % 16)]

@[simp] theorem length_hexDigits (count number : Nat) : (hexDigits count number).length = count := by
  induction count generalizing number with
  | zero => rfl
  | succ count ih => simp [hexDigits, ih]

end Stencil.Numeral

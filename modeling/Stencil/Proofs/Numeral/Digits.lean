import Mathlib.Algebra.Group.Nat.Defs
import Stencil.Json.Reader
import Stencil.Numeral.Hexadecimal
import Stencil.Numeral.Integer

/-!
# Digits

A natural number is read back from its decimal digits, which have no leading zeros, and from its last
hexadecimal digits as far as they reach.
-/

set_option autoImplicit false

namespace Stencil.Numeral

/-! ## Decimal digits -/

/-- A decimal number as it is written without leading zeros. -/
structure IsDecimal (digits : Text) : Prop where
  ne_nil : digits ≠ []
  isDigit : ∀ digit ∈ digits, digit.isDigit = true
  eq_zero_of_head? : digits.head? = some '0' → digits = ['0']

theorem isDigit_of_mem_ofNat {number : Nat} {digit : Char} (member : digit ∈ ofNat number) :
    digit.isDigit = true :=
  Nat.isDigit_of_mem_toDigits (by decide) (by decide) member

/-- The first digit is zero for the number zero only. -/
theorem eq_zero_of_head?_ofNat {number : Nat} (starts : (ofNat number).head? = some '0') :
    number = 0 := by
  induction number using Nat.strongRecOn with
  | ind number ih =>
      rw [ofNat, Nat.toDigits_eq_if (by decide)] at starts
      split at starts
      · exact Nat.digitChar_eq_zero.mp (Option.some.inj starts)
      · obtain ⟨first, others, shape⟩ :=
          List.exists_cons_of_ne_nil (Nat.toDigits_ne_nil (n := number / 10) (b := 10))
        rw [shape] at starts
        have vanishes : number / 10 = 0 := ih (number / 10) (by omega) (by rw [ofNat, shape]; exact starts)
        omega

theorem isDecimal_ofNat (number : Nat) : IsDecimal (ofNat number) where
  ne_nil := Nat.toDigits_ne_nil
  isDigit _ := isDigit_of_mem_ofNat
  eq_zero_of_head? starts := by
    rw [eq_zero_of_head?_ofNat starts]
    rfl

theorem digits?_ofNat (number : Nat) : digits? (ofNat number) = some number := by
  have digits : (ofNat number).all Char.isDigit = true :=
    List.all_eq_true.mpr fun _ => isDigit_of_mem_ofNat
  rw [digits?, if_pos ⟨Nat.toDigits_ne_nil, digits⟩, ← Nat.ofDigitChars_eq_foldl]
  exact congrArg some Nat.ofDigitChars_ten_toDigits

/-! ## Hexadecimal digits -/

/-- The number that is written by hexadecimal digits in letters of either case. -/
def hexadecimal? (digits : Text) : Option Nat :=
  digits.foldlM (fun number digit => (Json.hexDigit? digit).map (16 * number + ·)) 0

theorem hexadecimal?_concat (digits : Text) (digit : Char) :
    hexadecimal? (digits ++ [digit]) =
      (hexadecimal? digits).bind fun number => (Json.hexDigit? digit).map (16 * number + ·) := by
  rw [hexadecimal?, List.foldlM_append, hexadecimal?]
  simp

theorem hexDigit?_digitChar : ∀ digit < 16, Json.hexDigit? (Nat.digitChar digit) = some digit := by
  decide

theorem hexadecimal?_hexDigits (count number : Nat) :
    hexadecimal? (hexDigits count number) = some (number % 16 ^ count) := by
  induction count generalizing number with
  | zero => rw [Nat.pow_zero, Nat.mod_one]; rfl
  | succ count ih =>
      have last := hexDigit?_digitChar (number % 16) (Nat.mod_lt _ (by decide))
      rw [hexDigits, hexadecimal?_concat, ih, last, Nat.pow_succ', Nat.mod_mul, Option.bind_some,
        Option.map_some, Nat.add_comm]

theorem mem_of_mem_hexDigits {count number : Nat} {digit : Char}
    (member : digit ∈ hexDigits count number) : digit ∈ "0123456789abcdef".toList := by
  induction count generalizing number with
  | zero => cases member
  | succ count ih =>
      rw [hexDigits, List.mem_append] at member
      rcases member with before | last
      · exact ih before
      · have small : ∀ digit < 16, Nat.digitChar digit ∈ "0123456789abcdef".toList := by decide
        rw [List.mem_singleton.mp last]
        exact small _ (Nat.mod_lt _ (by decide))

end Stencil.Numeral

import Stencil.Text.Order

/-!
# The order of bytes

A text that comes before another one also comes before it byte by byte: of two characters the one with the
smaller code point has the smaller UTF-8 form.
-/

set_option autoImplicit false

namespace Stencil.Text

def bytes (text : Text) : List UInt8 := text.flatMap String.utf8EncodeChar

theorem toNat_lt (character : Char) : character.toNat < 0x110000 := by
  have valid : character.toNat < 0xD800 ∨ 0xDFFF < character.toNat ∧ character.toNat < 0x110000 :=
    character.valid
  omega

section

variable {left right : Nat}

theorem ofNat_lt_ofNat_iff (leftSmall : left < 256) (rightSmall : right < 256) :
    UInt8.ofNat left < UInt8.ofNat right ↔ left < right := by
  rw [UInt8.lt_iff_toNat_lt, UInt8.toNat_ofNat', UInt8.toNat_ofNat', Nat.mod_eq_of_lt leftSmall,
    Nat.mod_eq_of_lt rightSmall]

theorem ofNat_eq_ofNat_iff (leftSmall : left < 256) (rightSmall : right < 256) :
    UInt8.ofNat left = UInt8.ofNat right ↔ left = right := by
  rw [← UInt8.toNat_inj, UInt8.toNat_ofNat', UInt8.toNat_ofNat', Nat.mod_eq_of_lt leftSmall,
    Nat.mod_eq_of_lt rightSmall]

/-- Numbers of four digits in base sixty-four are compared digit by digit. -/
theorem digits_lt (leftSmall : left < 0x200000) (rightSmall : right < 0x200000)
    (less : left < right) :
    left / 262144 % 8 < right / 262144 % 8 ∨ left / 262144 % 8 = right / 262144 % 8 ∧
      (left / 4096 % 64 < right / 4096 % 64 ∨ left / 4096 % 64 = right / 4096 % 64 ∧
        (left / 64 % 64 < right / 64 % 64 ∨ left / 64 % 64 = right / 64 % 64 ∧
          left % 64 < right % 64)) := by
  have written (number : Nat) (small : number < 0x200000) : number =
      ((number / 262144 % 8 * 64 + number / 4096 % 64) * 64 + number / 64 % 64) * 64 + number % 64 := by
    omega
  have leftWritten := written left leftSmall
  have rightWritten := written right rightSmall
  have small (number : Nat) : number % 64 < 64 := Nat.mod_lt _ (by decide)
  have := small left
  have := small right
  have := small (left / 64)
  have := small (right / 64)
  have := small (left / 4096)
  have := small (right / 4096)
  -- What remains is linear in the digits.
  generalize left / 262144 % 8 = l₃, left / 4096 % 64 = l₂, left / 64 % 64 = l₁, left % 64 = l₀ at *
  generalize right / 262144 % 8 = r₃, right / 4096 % 64 = r₂, right / 64 % 64 = r₁, right % 64 = r₀ at *
  omega

end

theorem utf8EncodeChar_append_lt {left right : Char} (less : left.toNat < right.toNat)
    (lefts rights : List UInt8) :
    String.utf8EncodeChar left ++ lefts < String.utf8EncodeChar right ++ rights := by
  have leftSmall := toNat_lt left
  have rightSmall := toNat_lt right
  -- The first bytes tell how many bytes follow, and more bytes follow for larger code points.
  fun_cases String.utf8EncodeChar left <;> fun_cases String.utf8EncodeChar right <;>
    simp +zetaDelta (disch := omega) only [List.cons_append, List.nil_append,
      List.cons_lt_cons_iff, ofNat_lt_ofNat_iff, ofNat_eq_ofNat_iff, Char.toNat] at *
  case case4.case4 =>
    have digits := digits_lt (by omega) (by omega) less
    simp only [Nat.add_lt_add_iff_right, Nat.add_right_cancel_iff]
    grind
  all_goals omega

theorem bytes_lt_of_before {left right : Text} (first : before left right = true) :
    left.bytes < right.bytes := by
  induction left generalizing right with
  | nil =>
      cases right with
      | nil => cases first
      | cons head rest =>
          obtain ⟨byte, others, form⟩ :=
            List.exists_cons_of_ne_nil (String.utf8EncodeChar_ne_nil (c := head))
          rw [bytes, bytes, List.flatMap_nil, List.flatMap_cons, form]
          exact List.nil_lt_cons _ _
  | cons head rest ih =>
      cases right with
      | nil => cases first
      | cons head' rest' =>
          rw [bytes, bytes, List.flatMap_cons, List.flatMap_cons]
          rw [before, Bool.or_eq_true, Bool.and_eq_true, decide_eq_true_eq, beq_iff_eq] at first
          rcases first with less | ⟨rfl, later⟩
          · exact utf8EncodeChar_append_lt less _ _
          · exact List.append_left_lt (ih later)

end Stencil.Text

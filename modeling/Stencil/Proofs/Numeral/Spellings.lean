import Mathlib.Algebra.Group.Int.Defs
import Mathlib.Data.List.Induction
import Stencil.Proofs.Numeral.Digits

/-!
# Spellings of integers

A decimal integer may be written with a sign and with any number of zeros in front. Reading accepts exactly
these spellings. The one that writing produces has no plus sign and no zeros in front, and zero has no sign.
-/

set_option autoImplicit false

namespace Stencil.Numeral

inductive Sign where
  | plus | minus
  deriving DecidableEq

def Sign.character : Sign → Char
  | plus => '+'
  | minus => '-'

/-- A way to write an integer: a sign or none, zeros in front, and then the digits of its magnitude. -/
structure Spelling where
  sign : Option Sign
  zeros : Nat
  magnitude : Nat

namespace Spelling

def digits (spelling : Spelling) : Text :=
  List.replicate spelling.zeros '0' ++ ofNat spelling.magnitude

def text (spelling : Spelling) : Text :=
  (spelling.sign.map Sign.character).toList ++ spelling.digits

def number (spelling : Spelling) : Int :=
  if spelling.sign = some .minus then -spelling.magnitude else spelling.magnitude

/-- The spelling is the one in which integers are written. -/
structure IsPlain (spelling : Spelling) : Prop where
  sign_ne_plus : spelling.sign ≠ some .plus
  zeros_eq_zero : spelling.zeros = 0
  magnitude_ne_zero : spelling.sign = some .minus → spelling.magnitude ≠ 0

end Spelling

/-! ## Reading digits -/

theorem toNat_sub_lt_of_isDigit {digit : Char} (isDigit : digit.isDigit = true) :
    digit.toNat - '0'.toNat < 10 := by
  have bounds : 48 ≤ digit.toNat ∧ digit.toNat ≤ 57 := Char.isDigit_iff_toNat.mp isDigit
  change digit.toNat - 48 < 10
  omega

theorem ofNat_of_isDigit {digit : Char} (isDigit : digit.isDigit = true) :
    ofNat (digit.toNat - '0'.toNat) = [digit] := by
  have small := toNat_sub_lt_of_isDigit isDigit
  have lower := (Char.isDigit_iff_toNat.mp isDigit).1
  have zero : '0'.toNat = 48 := rfl
  rw [ofNat, Nat.toDigits_of_lt_base small, List.cons.injEq]
  refine ⟨Char.toNat_inj.mp ?_, rfl⟩
  rw [Nat.toNat_digitChar_of_lt_ten small]
  omega

/-- Digits are those of the number that they write, after zeros. -/
theorem exists_zeros_of_isDigit {text : Text} (nonempty : text ≠ [])
    (isDigit : ∀ digit ∈ text, digit.isDigit = true) :
    ∃ zeros, text = List.replicate zeros '0' ++ ofNat (Nat.ofDigitChars 10 text 0) := by
  induction text using List.reverseRecOn with
  | nil => exact absurd rfl nonempty
  | append_singleton before digit ih =>
      have last : digit.isDigit = true := isDigit digit (by simp)
      rw [Nat.ofDigitChars_append, Nat.ofDigitChars_cons, Nat.ofDigitChars_nil]
      by_cases only : before = []
      · subst only
        refine ⟨0, ?_⟩
        rw [Nat.ofDigitChars_nil, Nat.mul_zero, Nat.zero_add, ofNat_of_isDigit last]
        rfl
      obtain ⟨zeros, same⟩ := ih only fun other member => isDigit other (by simp [member])
      rcases Nat.eq_zero_or_pos (Nat.ofDigitChars 10 before 0) with vanishes | positive
      · refine ⟨zeros + 1, ?_⟩
        rw [vanishes] at same ⊢
        rw [Nat.mul_zero, Nat.zero_add, ofNat_of_isDigit last, same, List.replicate_succ']
        rfl
      · refine ⟨zeros, ?_⟩
        have further : ofNat (10 * Nat.ofDigitChars 10 before 0 + (digit.toNat - '0'.toNat)) =
            ofNat (Nat.ofDigitChars 10 before 0) ++ [digit] := by
          rw [← ofNat_of_isDigit last]
          exact (Nat.toDigits_append_toDigits (by decide) positive
            (toNat_sub_lt_of_isDigit last)).symm
        rw [further, ← List.append_assoc, ← same]

theorem isDigit_of_mem_zeros_append {zeros number : Nat} {digit : Char}
    (member : digit ∈ List.replicate zeros '0' ++ ofNat number) : digit.isDigit = true := by
  rcases List.mem_append.mp member with zero | inNumber
  · rw [List.eq_of_mem_replicate zero]; rfl
  · exact isDigit_of_mem_ofNat inNumber

theorem digits?_eq_some_iff {text : Text} {number : Nat} :
    digits? text = some number ↔ ∃ zeros, text = List.replicate zeros '0' ++ ofNat number := by
  constructor
  · intro found
    rw [digits?, ← Nat.ofDigitChars_eq_foldl] at found
    split at found
    · next digits =>
        obtain rfl := Option.some.inj found
        exact exists_zeros_of_isDigit digits.1 (List.all_eq_true.mp digits.2)
    · cases found
  · rintro ⟨zeros, rfl⟩
    have nonempty : List.replicate zeros '0' ++ ofNat number ≠ [] :=
      List.append_ne_nil_of_right_ne_nil _ Nat.toDigits_ne_nil
    have isDigit : (List.replicate zeros '0' ++ ofNat number).all Char.isDigit = true :=
      List.all_eq_true.mpr fun digit => isDigit_of_mem_zeros_append
    rw [digits?, if_pos ⟨nonempty, isDigit⟩, ← Nat.ofDigitChars_eq_foldl, Nat.ofDigitChars_append,
      Nat.ofDigitChars_replicate_zero, Nat.mul_zero]
    exact congrArg some Nat.ofDigitChars_ten_toDigits

/-! ## Reading integers -/

theorem toInt?_of_isDigit {text : Text} (isDigit : ∀ digit ∈ text, digit.isDigit = true) :
    toInt? text = (digits? text).map Int.ofNat := by
  fun_cases toInt? text with
  | case1 digits => exact absurd (isDigit '+' List.mem_cons_self) (by decide)
  | case2 digits => exact absurd (isDigit '-' List.mem_cons_self) (by decide)
  | case3 => rfl

namespace Spelling

theorem digits?_digits (spelling : Spelling) : digits? spelling.digits = some spelling.magnitude :=
  digits?_eq_some_iff.mpr ⟨spelling.zeros, rfl⟩

theorem toInt?_text (spelling : Spelling) : toInt? spelling.text = some spelling.number := by
  have read := spelling.digits?_digits
  obtain ⟨sign, zeros, magnitude⟩ := spelling
  cases sign with
  | none =>
      exact (toInt?_of_isDigit fun _ => isDigit_of_mem_zeros_append).trans (congrArg (Option.map _) read)
  | some sign =>
      cases sign with
      | plus => exact congrArg (Option.map _) read
      | minus => exact congrArg (Option.map _) read

theorem exists_of_toInt? {text : Text} {number : Int} (found : toInt? text = some number) :
    ∃ spelling : Spelling, spelling.text = text ∧ spelling.number = number := by
  have spelled {digits : Text} {place : Nat → Int} (found : (digits? digits).map place = some number) :
      ∃ zeros magnitude, digits = List.replicate zeros '0' ++ ofNat magnitude ∧
        place magnitude = number := by
    obtain ⟨magnitude, read, same⟩ := Option.map_eq_some_iff.mp found
    obtain ⟨zeros, shape⟩ := digits?_eq_some_iff.mp read
    exact ⟨zeros, magnitude, shape, same⟩
  revert found
  fun_cases toInt? text with
  | case1 digits =>
      intro found
      obtain ⟨zeros, magnitude, rfl, rfl⟩ := spelled found
      exact ⟨⟨some .plus, zeros, magnitude⟩, rfl, rfl⟩
  | case2 digits =>
      intro found
      obtain ⟨zeros, magnitude, rfl, rfl⟩ := spelled found
      exact ⟨⟨some .minus, zeros, magnitude⟩, rfl, rfl⟩
  | case3 =>
      intro found
      obtain ⟨zeros, magnitude, rfl, rfl⟩ := spelled found
      exact ⟨⟨none, zeros, magnitude⟩, rfl, rfl⟩

/-- Reading accepts exactly the spellings of integers. -/
theorem toInt?_eq_some_iff {text : Text} {number : Int} :
    toInt? text = some number ↔
      ∃ spelling : Spelling, spelling.text = text ∧ spelling.number = number := by
  constructor
  · exact exists_of_toInt?
  · rintro ⟨spelling, rfl, rfl⟩
    exact spelling.toInt?_text

theorem digits_eq_ofNat_iff (spelling : Spelling) :
    spelling.digits = ofNat spelling.magnitude ↔ spelling.zeros = 0 := by
  rw [digits, List.append_left_eq_self, List.replicate_eq_nil_iff]

theorem ofInt_natCast (number : Nat) : ofInt number = ofNat number := by
  rw [ofInt, if_neg (by omega), Int.natAbs_natCast]

theorem ofInt_neg_natCast {number : Nat} (positive : number ≠ 0) :
    ofInt (-number) = '-' :: ofNat number := by
  rw [ofInt, if_pos (by omega), Int.natAbs_neg, Int.natAbs_natCast]

theorem sign_cons_ne_ofNat (sign : Sign) (rest : Text) (number : Nat) :
    sign.character :: rest ≠ ofNat number := by
  intro same
  have isDigit : sign.character.isDigit = true := isDigit_of_mem_ofNat (same ▸ List.mem_cons_self)
  cases sign <;> cases isDigit

/-- Writing an integer gives its plain spelling. -/
theorem text_eq_ofInt_iff {spelling : Spelling} :
    spelling.text = ofInt spelling.number ↔ spelling.IsPlain := by
  have sameDigits := digits_eq_ofNat_iff spelling
  obtain ⟨sign, zeros, magnitude⟩ := spelling
  cases sign with
  | none =>
      have written : ofInt (Spelling.number ⟨none, zeros, magnitude⟩) = ofNat magnitude :=
        ofInt_natCast magnitude
      rw [written]
      exact sameDigits.trans ⟨fun none => ⟨nofun, none, nofun⟩, IsPlain.zeros_eq_zero⟩
  | some sign =>
      cases sign with
      | plus =>
          have written : ofInt (Spelling.number ⟨some .plus, zeros, magnitude⟩) = ofNat magnitude :=
            ofInt_natCast magnitude
          rw [written]
          exact iff_of_false (sign_cons_ne_ofNat .plus _ magnitude)
            fun plain => plain.sign_ne_plus rfl
      | minus =>
          by_cases positive : magnitude = 0
          · subst positive
            have written : ofInt (Spelling.number ⟨some .minus, zeros, 0⟩) = ofNat 0 :=
              ofInt_natCast 0
            rw [written]
            exact iff_of_false (sign_cons_ne_ofNat .minus _ 0)
              fun plain => plain.magnitude_ne_zero rfl rfl
          · have written : ofInt (Spelling.number ⟨some .minus, zeros, magnitude⟩) =
                '-' :: ofNat magnitude := ofInt_neg_natCast positive
            rw [written]
            exact (List.cons_inj_right '-').trans
              (sameDigits.trans ⟨fun none => ⟨nofun, none, fun _ => positive⟩, IsPlain.zeros_eq_zero⟩)

end Spelling

/-! ## Words -/

/-- The integer is a signed word of 64 bits. -/
def FitsWord (number : Int) : Prop := -2 ^ 63 ≤ number ∧ number < 2 ^ 63

theorem fitsWord_iff {number : Int} :
    FitsWord number ↔ Int64.minValue.toInt ≤ number ∧ number ≤ Int64.maxValue.toInt := by
  rw [Int64.toInt_minValue, Int64.toInt_maxValue, FitsWord]
  omega

theorem toInt64?_text {spelling : Spelling} (fits : FitsWord spelling.number) :
    toInt64? spelling.text = some (Int64.ofInt spelling.number) := by
  simp only [toInt64?, spelling.toInt?_text]
  rw [if_pos (fitsWord_iff.mp fits)]

theorem toInt64?_eq_none {text : Text}
    (outside : ∀ spelling : Spelling, spelling.text = text → ¬ FitsWord spelling.number) :
    toInt64? text = none := by
  rw [toInt64?]
  cases found : toInt? text with
  | none => rfl
  | some number =>
      obtain ⟨spelling, same, rfl⟩ := Spelling.toInt?_eq_some_iff.mp found
      exact if_neg fun range => outside spelling same (fitsWord_iff.mpr range)

end Stencil.Numeral

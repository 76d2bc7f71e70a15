import Stencil.Command.Run
import Stencil.Proofs.Numeral.Spellings

/-!
# Parameters of the command line

A parameter that spells an integer of 64 bits becomes a number, and any other a string. Its text is what was
given, except for an integer that is not spelled as integers are written: with a plus sign, with zeros in
front, or zero with a minus sign. Such a parameter has the plain spelling as its text.
-/

set_option autoImplicit false

namespace Stencil

namespace Command

open Numeral

theorem text?_paramValue (raw : Text) :
    (∃ spelling : Spelling, spelling.text = raw ∧ FitsWord spelling.number ∧
      (∃ word : Int64, word.toInt = spelling.number ∧ paramValue raw = .number word) ∧
      (paramValue raw).text? = some (ofInt spelling.number) ∧
      ((paramValue raw).text? = some raw ↔ spelling.IsPlain)) ∨
    (∀ spelling : Spelling, spelling.text = raw → ¬ FitsWord spelling.number) ∧
      paramValue raw = .string raw ∧ (paramValue raw).text? = some raw := by
  by_cases spelled : ∃ spelling : Spelling, spelling.text = raw ∧ FitsWord spelling.number
  · obtain ⟨spelling, rfl, fits⟩ := spelled
    have word : (Int64.ofInt spelling.number).toInt = spelling.number :=
      Int64.toInt_ofInt_of_le fits.1 fits.2
    have value : paramValue spelling.text = .number (Int64.ofInt spelling.number) := by
      rw [paramValue, toInt64?_text fits]
    have text : (paramValue spelling.text).text? = some (ofInt spelling.number) := by
      rw [value, Value.text?, word]
    refine .inl ⟨spelling, rfl, fits, ⟨_, word, value⟩, text, ?_⟩
    rw [text, Option.some_inj, eq_comm, spelling.text_eq_ofInt_iff]
  · have outside : ∀ spelling : Spelling, spelling.text = raw → ¬ FitsWord spelling.number :=
      fun spelling same fits => spelled ⟨spelling, same, fits⟩
    have value : paramValue raw = .string raw := by rw [paramValue, toInt64?_eq_none outside]
    exact .inr ⟨outside, value, by rw [value, Value.text?]⟩

/-- Zeros in front are lost. -/
theorem text?_paramValue_zeros :
    (paramValue ['0', '0', '7']).text? ≠ some ['0', '0', '7'] := by
  decide

end Command

end Stencil

import Mathlib.Data.List.Induction
import Stencil.Proofs.Text.Cuts
import Stencil.Text.Place

/-!
# Places and positions

The part of a text before a position is a number of complete lines and the beginning of one more. The
place counts the former in its line and the characters of the latter in its column. Going back, as many
lines are dropped and as many characters taken, and that gives the position again, unless it is the end
of the text.
-/

set_option autoImplicit false

namespace Stencil

namespace Text

/-- A text whose last line is complete: it is empty, or its last character is a line feed. -/
def EndsLine (text : Text) : Prop := ∀ last, text.getLast? = some last → last = '\n'

variable {lines line : Text}

theorem endsLine_nil : EndsLine [] := by
  intro last ends
  cases ends

theorem EndsLine.of_cons {head : Char} (complete : EndsLine (head :: lines)) : lines.EndsLine := by
  intro last ends
  apply complete
  rw [List.getLast?_cons, ends, Option.getD_some]

/-- The line feeds of a text divide it into complete lines and one more. -/
theorem exists_lines (text : Text) :
    ∃ lines line, text = lines ++ line ∧ lines.EndsLine ∧ '\n' ∉ line := by
  induction text using List.reverseRecOn with
  | nil => exact ⟨[], [], rfl, endsLine_nil, List.not_mem_nil⟩
  | append_singleton before last ih =>
      by_cases ends : last = '\n'
      · refine ⟨before ++ [last], [], (List.append_nil _).symm, ?_, List.not_mem_nil⟩
        intro final same
        rw [List.getLast?_concat, Option.some.injEq] at same
        exact same.symm.trans ends
      · obtain ⟨lines, line, rfl, complete, unbroken⟩ := ih
        refine ⟨lines, line ++ [last], List.append_assoc .., complete, ?_⟩
        simp [unbroken, Ne.symm ends]

theorem dropLines_zero (text : Text) : text.dropLines 0 = text := by
  cases text <;> rfl

theorem dropLines_count_append (complete : lines.EndsLine) (rest : Text) :
    (lines ++ rest).dropLines (lines.count '\n') = rest := by
  induction lines with
  | nil => exact dropLines_zero rest
  | cons head tail ih =>
      have later := ih complete.of_cons
      by_cases ends : head = '\n'
      · subst ends
        rw [List.cons_append, List.count_cons_self, dropLines, if_neg (Nat.succ_ne_zero _), if_pos rfl,
          Nat.add_sub_cancel, later]
      · -- The line goes on, so there is a line feed further right.
        have broken : '\n' ∈ tail := by
          obtain ⟨before, last, rfl⟩ := List.eq_nil_or_concat tail |>.resolve_left (by
            rintro rfl
            exact ends (complete head rfl))
          have final : last = '\n' := complete.of_cons last (by simp)
          simp [final]
        have more : tail.count '\n' ≠ 0 := fun zero => List.count_eq_zero.mp zero broken
        rw [List.cons_append, List.count_cons_of_ne ends, dropLines, if_neg more, if_neg ends, later]

theorem takeWhile_append_of_notMem (unbroken : '\n' ∉ line) (rest : Text) :
    (line ++ rest).takeWhile (· != '\n') = line ++ rest.takeWhile (· != '\n') := by
  apply List.takeWhile_append_of_pos
  intro character member
  have other : character ≠ '\n' := fun ends => unbroken (ends ▸ member)
  simpa using other

theorem takeWhile_reverse_append (complete : lines.EndsLine) (unbroken : '\n' ∉ line) :
    (lines ++ line).reverse.takeWhile (· != '\n') = line.reverse := by
  have backwards : '\n' ∉ line.reverse := fun member => unbroken (List.mem_reverse.mp member)
  rw [List.reverse_append, takeWhile_append_of_notMem backwards]
  rcases List.eq_nil_or_concat lines with rfl | ⟨before, last, rfl⟩
  · simp
  · have final : last = '\n' := complete last (by simp)
    simp [final]

end Text

namespace Place

/-- The line is counted in line feeds, and the column in characters after the last line feed. -/
theorem ofPosition_eq (text : Text) (position : Nat) :
    Place.ofPosition text position =
      ⟨1 + (text.takeBytes position).count '\n',
        1 + ((text.takeBytes position).reverse.takeWhile (· != '\n')).length⟩ := by
  rw [ofPosition]
  induction text.takeBytes position using List.reverseRecOn with
  | nil => rfl
  | append_singleton before last ih =>
      rw [List.foldl_append, ih]
      by_cases ends : last = '\n'
      · simp [advance, ends, Nat.add_assoc]
      · simp [advance, ends, Nat.add_comm]

theorem ofPosition_lines {lines line : Text} (complete : lines.EndsLine) (unbroken : '\n' ∉ line)
    (rest : Text) :
    ofPosition (lines ++ (line ++ rest)) (lines.size + line.size) =
      ⟨1 + lines.count '\n', 1 + line.length⟩ := by
  rw [ofPosition_eq, ← List.append_assoc, ← Text.size_append, Text.takeBytes_size_append,
    Text.takeWhile_reverse_append complete unbroken, List.count_append,
    List.count_eq_zero.mpr unbroken, Nat.add_zero, List.length_reverse]

theorem toPosition_lines {lines line rest : Text} (complete : lines.EndsLine) (goesOn : rest ≠ []) :
    toPosition (lines ++ (line ++ rest)) ⟨1 + lines.count '\n', 1 + line.length⟩ =
      lines.size + line.size := by
  have longer : line.length < (line ++ rest).length := by
    rw [List.length_append]
    exact Nat.lt_add_of_pos_right (List.length_pos_iff.mpr goesOn)
  simp only [toPosition, Nat.add_sub_cancel_left, Text.dropLines_count_append complete,
    List.take_left, if_pos longer, Text.size_append]
  omega

/-- A position before the end of a text is found again from its place. -/
theorem toPosition_ofPosition {text : Text} {position : Nat} (cut : text.IsCut position)
    (inside : position < text.size) : (ofPosition text position).toPosition text = position := by
  obtain ⟨left, rest, rfl, rfl⟩ := cut
  obtain ⟨lines, line, rfl, complete, unbroken⟩ := left.exists_lines
  have goesOn : rest ≠ [] := by
    rintro rfl
    rw [List.append_nil] at inside
    exact Nat.lt_irrefl _ inside
  rw [List.append_assoc, Text.size_append, ofPosition_lines complete unbroken,
    toPosition_lines complete goesOn]

end Place

end Stencil

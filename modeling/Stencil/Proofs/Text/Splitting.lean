import Stencil.Text.Basic

/-!
# Splitting

A text is split at every occurrence of a mark. Texts that are joined by the mark are split into the pieces
of each of them.
-/

set_option autoImplicit false

namespace Stencil.Text

variable {mark : Char} {piece rest : Text}

theorem split_of_not_mem (unmarked : mark ∉ piece) : split (· == mark) piece = [piece] := by
  induction piece with
  | nil => rfl
  | cons head piece ih =>
      rw [List.mem_cons, not_or] at unmarked
      rw [split, if_neg (by simpa using Ne.symm unmarked.1), ih unmarked.2]

theorem split_append_mark (mark : Char) (left right : Text) :
    split (· == mark) (left ++ mark :: right) =
      split (· == mark) left ++ split (· == mark) right := by
  induction left with
  | nil => simp [split]
  | cons head left ih =>
      obtain ⟨piece, pieces, shape⟩ := List.exists_cons_of_ne_nil (split_ne_nil (· == mark) left)
      rw [shape, List.cons_append] at ih
      simp only [List.cons_append, split, shape, ih]
      split <;> rfl

theorem split_append_cons (unmarked : mark ∉ piece) :
    split (· == mark) (piece ++ mark :: rest) = piece :: split (· == mark) rest := by
  rw [split_append_mark, split_of_not_mem unmarked, List.singleton_append]

theorem split_join {pieces : List Text} (nonempty : pieces ≠ [])
    (unmarked : ∀ piece ∈ pieces, mark ∉ piece) : split (· == mark) (join [mark] pieces) = pieces := by
  induction pieces with
  | nil => exact absurd rfl nonempty
  | cons piece pieces ih =>
      obtain ⟨here, later⟩ := List.forall_mem_cons.mp unmarked
      cases pieces with
      | nil => exact split_of_not_mem here
      | cons next pieces =>
          rw [join, List.singleton_append, split_append_cons here, ih (by simp) later]

end Stencil.Text

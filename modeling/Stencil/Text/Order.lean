import Stencil.Text.Basic

/-!
# Order of texts

Texts are ordered character by character by code point, and a text comes before every longer one
that starts with it. UTF-8 keeps the order of code points, so the bytes of texts are in the same
order.
-/

set_option autoImplicit false

namespace Stencil.Text

def before : Text → Text → Bool
  | _, [] => false
  | [], _ :: _ => true
  | left :: lefts, right :: rights =>
      left.toNat < right.toNat || (left == right && before lefts rights)

theorem before_trans {left middle right : Text} (first : before left middle = true)
    (second : before middle right = true) : before left right = true := by
  induction left generalizing middle right with
  | nil =>
      cases right with
      | nil => cases middle <;> simp [before] at second
      | cons => rfl
  | cons head rest ih =>
      cases middle with
      | nil => simp [before] at first
      | cons head' rest' =>
          cases right with
          | nil => simp [before] at second
          | cons head'' rest'' =>
              simp only [before, Bool.or_eq_true, Bool.and_eq_true, decide_eq_true_eq,
                beq_iff_eq] at first second ⊢
              rcases first with less | ⟨rfl, first⟩
              · rcases second with less' | ⟨rfl, _⟩
                · exact .inl (Nat.lt_trans less less')
                · exact .inl less
              · rcases second with less' | ⟨rfl, second⟩
                · exact .inl less'
                · exact .inr ⟨rfl, ih first second⟩

/-- Of two different texts one comes before the other. -/
theorem before_or_before {left right : Text} (different : left ≠ right) :
    before left right = true ∨ before right left = true := by
  induction left generalizing right with
  | nil =>
      cases right with
      | nil => exact absurd rfl different
      | cons => exact .inl rfl
  | cons head rest ih =>
      cases right with
      | nil => exact .inr rfl
      | cons head' rest' =>
          simp only [before, Bool.or_eq_true, Bool.and_eq_true, decide_eq_true_eq, beq_iff_eq]
          by_cases same : head = head'
          · subst same
            rcases ih fun equal => different (by rw [equal]) with left | right
            · exact .inl (.inr ⟨rfl, left⟩)
            · exact .inr (.inr ⟨rfl, right⟩)
          · have apart : head.toNat ≠ head'.toNat := fun equal => same (Char.toNat_inj.mp equal)
            rcases Nat.lt_or_gt_of_ne apart with less | less
            · exact .inl (.inl less)
            · exact .inr (.inl less)

end Stencil.Text

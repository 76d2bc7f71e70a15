import Stencil.Text.Basic

/-!
# First occurrences

A text is broken at the first occurrence of a literal, and there is only one way to do so.
-/

set_option autoImplicit false

namespace Stencil.Text

variable {literal before after text : Text}

/-- A literal that is written after a text occurs nowhere before its end. -/
def IsFirst (literal before : Text) : Prop :=
  ∀ left right, before ++ literal = left ++ (literal ++ right) → right = []

theorem IsFirst.of_cons {head : Char} (first : IsFirst literal (head :: before)) :
    IsFirst literal before := by
  intro left right whole
  exact first (head :: left) right (congrArg (List.cons head) whole)

theorem IsFirst.not_isPrefix {head : Char} (first : IsFirst literal (head :: before))
    (rest : Text) : ¬literal <+: head :: (before ++ (literal ++ rest)) := by
  intro starts
  have within : literal <+: head :: (before ++ literal) := by
    apply List.prefix_of_prefix_length_le starts ⟨rest, by simp⟩
    simp only [List.length_cons, List.length_append]
    omega
  obtain ⟨right, whole⟩ := within
  have ends := first [] right whole.symm
  rw [ends, List.append_nil] at whole
  have length := congrArg List.length whole
  simp only [List.length_cons, List.length_append] at length
  omega

theorem isFirst_nil (literal : Text) : IsFirst literal [] := by
  intro left right whole
  have length := congrArg List.length whole
  simp only [List.nil_append, List.length_append] at length
  exact List.length_eq_zero_iff.mp (by omega)

theorem IsFirst.not_isInfix (first : IsFirst literal before) (nonempty : literal ≠ []) :
    ¬literal <:+: before := by
  rintro ⟨left, right, rfl⟩
  have ends := first left (right ++ literal) (by simp)
  exact nonempty (List.append_eq_nil_iff.mp ends).2

/-- No occurrence in a text leaves more after it than the first one does. -/
theorem IsFirst.suffix {before' after' : Text} (first : IsFirst literal before)
    (same : before ++ (literal ++ after) = before' ++ (literal ++ after')) : after' <:+ after := by
  induction before generalizing before' with
  | nil =>
      have length := congrArg List.length same
      simp only [List.nil_append, List.length_append] at length
      have whole : (before' ++ literal) ++ after' = literal ++ after := by
        rw [List.append_assoc, ← same, List.nil_append]
      exact List.suffix_of_suffix_length_le ⟨_, whole⟩ ⟨literal, rfl⟩ (by omega)
  | cons head before ih =>
      cases before' with
      | nil => exact absurd ⟨after', same.symm⟩ (first.not_isPrefix after)
      | cons head' before' => exact ih first.of_cons (List.cons.inj same).2

theorem IsFirst.append_inj {before' after' : Text} (first : IsFirst literal before)
    (first' : IsFirst literal before')
    (same : before ++ (literal ++ after) = before' ++ (literal ++ after')) :
    before = before' ∧ after = after' := by
  have ends : after' = after :=
    (first.suffix same).eq_of_length_le (first'.suffix same.symm).length_le
  rw [ends] at same
  exact ⟨List.append_cancel_right same, ends.symm⟩

/-- The first occurrence in a text that ends with the literal is the one at the end exactly if there is no
earlier one. -/
theorem IsFirst.after_eq_nil_iff (first : IsFirst literal before)
    (same : before ++ (literal ++ after) = text ++ literal) : after = [] ↔ IsFirst literal text := by
  constructor
  · rintro rfl
    rw [List.append_nil] at same
    exact List.append_cancel_right same ▸ first
  · intro last
    have ends : before ++ (literal ++ after) = text ++ (literal ++ []) := by
      rw [same, List.append_nil]
    exact (first.append_inj last ends).2

theorem isFirst_singleton_iff {mark : Char} : IsFirst [mark] text ↔ mark ∉ text := by
  constructor
  · intro first member
    obtain ⟨left, right, rfl⟩ := List.append_of_mem member
    exact first.not_isInfix (List.cons_ne_nil mark []) ⟨left, right, by simp⟩
  · intro absent left right whole
    rcases List.eq_nil_or_concat right with rfl | ⟨right, last, rfl⟩
    · rfl
    · have shorter : text ++ [mark] = (left ++ ([mark] ++ right)) ++ [last] := by simpa using whole
      obtain ⟨rfl, -⟩ := List.append_inj' shorter rfl
      simp at absent

/-- Of two different characters, one cannot end an occurrence where the other starts one. -/
theorem isFirst_pair_of_not_isInfix {first second : Char} (different : first ≠ second)
    (absent : ¬[first, second] <:+: text) : IsFirst [first, second] text := by
  intro left right whole
  rcases List.eq_nil_or_concat right with rfl | ⟨right, last, rfl⟩
  · rfl
  · exfalso
    have shorter : text ++ [first] = left ++ ([first, second] ++ right) := by
      have ends : (text ++ [first]) ++ [second] = (left ++ ([first, second] ++ right)) ++ [last] := by
        simpa using whole
      exact (List.append_inj' ends rfl).1
    rcases List.eq_nil_or_concat right with rfl | ⟨right, final, rfl⟩
    · have ends : text ++ [first] = (left ++ [first]) ++ [second] := by simpa using shorter
      exact different (List.singleton_inj.mp (List.append_inj' ends rfl).2)
    · have ends : text ++ [first] = (left ++ ([first, second] ++ right)) ++ [final] := by
        simpa using shorter
      exact absent ⟨left, right, by simpa using (List.append_inj' ends rfl).1.symm⟩

/-! ## Breaking a text -/

theorem isPrefix_iff_dropLiteral? :
    literal <+: text ↔ ∃ rest, dropLiteral? literal text = some rest := by
  simp only [dropLiteral?_eq_some_iff, List.prefix_iff_exists_eq_append]

theorem not_isInfix_of_breakOn? (missing : breakOn? literal text = none) : ¬literal <:+: text := by
  induction text with
  | nil =>
      intro inside
      rw [List.infix_nil.mp inside] at missing
      cases missing
  | cons head rest ih =>
      rw [breakOn?] at missing
      split at missing
      · cases missing
      · next absent =>
          rw [List.infix_cons_iff, not_or, isPrefix_iff_dropLiteral?]
          refine ⟨?_, ih (Option.map_eq_none_iff.mp missing)⟩
          rintro ⟨after, dropped⟩
          rw [absent] at dropped
          cases dropped

theorem isFirst_of_breakOn? (found : breakOn? literal text = some (before, after)) :
    IsFirst literal before := by
  induction text generalizing before with
  | nil =>
      rw [breakOn?] at found
      split at found
      · cases found
        exact isFirst_nil literal
      · cases found
  | cons head rest ih =>
      have whole := append_eq_of_breakOn? found
      rw [breakOn?] at found
      split at found
      · cases found
        exact isFirst_nil literal
      · next absent =>
          obtain ⟨⟨inner, outer⟩, later, same⟩ := Option.map_eq_some_iff.mp found
          cases same
          intro left right occurrence
          cases left with
          | nil =>
              -- An occurrence at the very start would have been found there.
              have starts : literal <+: head :: rest := by
                rw [whole]
                exact ⟨right ++ after, by simpa using congrArg (· ++ after) occurrence.symm⟩
              obtain ⟨_, dropped⟩ := isPrefix_iff_dropLiteral?.mp starts
              rw [absent] at dropped
              cases dropped
          | cons start left => exact ih later left right (List.cons.inj occurrence).2

/-- A text is broken where a literal stands with no occurrence that ends earlier. -/
theorem breakOn?_eq_some_iff :
    breakOn? literal text = some (before, after) ↔
      text = before ++ (literal ++ after) ∧ IsFirst literal before := by
  constructor
  · intro found
    exact ⟨append_eq_of_breakOn? found, isFirst_of_breakOn? found⟩
  · rintro ⟨rfl, first⟩
    cases found : breakOn? literal (before ++ (literal ++ after)) with
    | none => exact absurd (List.infix_append' _ _ _) (not_isInfix_of_breakOn? found)
    | some parts =>
        obtain ⟨rfl, rfl⟩ :=
          first.append_inj (isFirst_of_breakOn? found) (append_eq_of_breakOn? found)
        rfl

/-- More text behind does not change where a literal is found. -/
theorem breakOn?_append (found : breakOn? literal text = some (before, after)) (rest : Text) :
    breakOn? literal (text ++ rest) = some (before, after ++ rest) := by
  obtain ⟨rfl, first⟩ := breakOn?_eq_some_iff.mp found
  exact breakOn?_eq_some_iff.mpr ⟨by simp only [List.append_assoc], first⟩

end Stencil.Text

import Stencil.Text.Basic

/-!
# Cuts of a text

The byte positions at which a text can be cut into two texts. Slices between cuts fit together
without loss, and a slice of a slice is a slice of the whole.
-/

set_option autoImplicit false

namespace Stencil.Text

/-- A byte position that is not past the end of a text and not inside of a character. -/
def IsCut (text : Text) (position : Nat) : Prop :=
  ∃ left right, text = left ++ right ∧ size left = position

theorem isCut_zero (text : Text) : text.IsCut 0 := ⟨[], text, rfl, rfl⟩

theorem isCut_size (text : Text) : text.IsCut text.size :=
  ⟨text, [], (List.append_nil text).symm, rfl⟩

theorem IsCut.le_size {text : Text} {position : Nat} (cut : text.IsCut position) :
    position ≤ text.size := by
  obtain ⟨left, right, rfl, rfl⟩ := cut
  simp

theorem IsCut.append {left : Text} {position : Nat} (cut : left.IsCut position) (right : Text) :
    IsCut (left ++ right) position := by
  obtain ⟨before, after, rfl, same⟩ := cut
  exact ⟨before, after ++ right, List.append_assoc before after right, same⟩

/-- Of two ways to cut one text, the shorter left part begins the longer one. -/
theorem exists_append_of_size_le {left right left' right' : Text}
    (same : left ++ right = left' ++ right') (shorter : left.size ≤ left'.size) :
    ∃ middle, left' = left ++ middle ∧ right = middle ++ right' := by
  rcases List.append_eq_append_iff.mp same with ⟨middle, whole, rest⟩ | ⟨middle, whole, rest⟩
  · exact ⟨middle, whole, rest⟩
  · have empty : middle = [] := by
      rw [whole, size_append] at shorter
      exact size_eq_zero_iff.mp (by omega)
    subst empty
    exact ⟨[], by simpa using whole.symm, by simpa using rest.symm⟩

theorem append_inj_of_size_eq {left right left' right' : Text}
    (same : left ++ right = left' ++ right') (sizes : left.size = left'.size) :
    left = left' ∧ right = right' := by
  obtain ⟨middle, whole, rest⟩ := exists_append_of_size_le same (Nat.le_of_eq sizes)
  have empty : middle = [] := by
    rw [whole, size_append] at sizes
    exact size_eq_zero_iff.mp (by omega)
  subst empty
  exact ⟨by simpa using whole.symm, by simpa using rest⟩

theorem IsCut.exists_parts {text : Text} {start stop : Nat} (first : text.IsCut start)
    (second : text.IsCut stop) (ordered : start ≤ stop) :
    ∃ left middle right, text = left ++ (middle ++ right) ∧ left.size = start ∧
      left.size + middle.size = stop := by
  obtain ⟨left, rest, rfl, rfl⟩ := first
  obtain ⟨left', right, same, rfl⟩ := second
  obtain ⟨middle, rfl, rfl⟩ := exists_append_of_size_le same ordered
  exact ⟨left, middle, right, rfl, rfl, by simp⟩

theorem dropBytes_of_isCut {text : Text} {start stop : Nat} (first : text.IsCut start)
    (second : text.IsCut stop) (ordered : start ≤ stop) :
    text.dropBytes start = text.slice start stop ++ text.dropBytes stop := by
  obtain ⟨left, middle, right, rfl, rfl, rfl⟩ := first.exists_parts second ordered
  rw [slice_append_append, dropBytes_size_append, ← size_append, ← List.append_assoc left,
    dropBytes_size_append]

theorem size_slice {text : Text} {start stop : Nat} (first : text.IsCut start)
    (second : text.IsCut stop) (ordered : start ≤ stop) :
    (text.slice start stop).size = stop - start := by
  obtain ⟨left, middle, right, rfl, rfl, rfl⟩ := first.exists_parts second ordered
  rw [slice_append_append]
  omega

@[simp] theorem dropBytes_size (text : Text) : text.dropBytes text.size = [] := by
  simpa using dropBytes_size_append text []

/-- What is dropped of a text after all of its left part is dropped of the right part. -/
theorem dropBytes_size_add (left right : Text) (position : Nat) :
    (left ++ right).dropBytes (left.size + position) = right.dropBytes position := by
  induction left with
  | nil => simp
  | cons head rest ih =>
      have positive := head.utf8Size_pos
      have further : head.utf8Size + Text.size rest + position ≠ 0 := by omega
      have same : head.utf8Size + Text.size rest + position - head.utf8Size =
          Text.size rest + position := by omega
      rw [List.cons_append, dropBytes, size_cons, if_neg further, same, ih]

theorem dropBytes_eq_slice {text : Text} {start : Nat} (cut : text.IsCut start) :
    text.dropBytes start = text.slice start text.size := by
  simpa using dropBytes_of_isCut cut (isCut_size text) cut.le_size

/-- A slice of the part in the middle, seen from the whole text. -/
theorem slice_of_middle (left : Text) {middle : Text} (right : Text) {start stop : Nat}
    (first : middle.IsCut start) (second : middle.IsCut stop) (ordered : start ≤ stop) :
    slice (left.size + start) (left.size + stop) (left ++ (middle ++ right)) =
      middle.slice start stop := by
  obtain ⟨before, inside, after, rfl, rfl, rfl⟩ := first.exists_parts second ordered
  rw [slice_append_append]
  have regrouped : left ++ ((before ++ (inside ++ after)) ++ right) =
      (left ++ before) ++ (inside ++ (after ++ right)) := by simp
  rw [regrouped, ← size_append, ← Nat.add_assoc, ← size_append, slice_append_append]

/-- Cuts of the whole that lie in a part are cuts of the part. -/
theorem IsCut.of_append_append {left middle right : Text} {position : Nat}
    (cut : IsCut (left ++ (middle ++ right)) position) (after : left.size ≤ position)
    (before : position ≤ left.size + middle.size) : middle.IsCut (position - left.size) := by
  obtain ⟨start, rest, same, rfl⟩ := cut
  obtain ⟨inside, rfl, joined⟩ := exists_append_of_size_le same after
  rw [size_append] at before ⊢
  obtain ⟨remainder, rfl, -⟩ := exists_append_of_size_le joined.symm (by omega)
  exact ⟨inside, remainder, rfl, by omega⟩

/-- A slice of a slice is a slice of the whole. -/
theorem slice_slice {text : Text} {left right start stop : Nat} (leftCut : text.IsCut left)
    (rightCut : text.IsCut right) (first : text.IsCut start) (second : text.IsCut stop)
    (after : left ≤ start) (ordered : start ≤ stop) (before : stop ≤ right) :
    (text.slice left right).slice (start - left) (stop - left) = text.slice start stop := by
  obtain ⟨before', middle, after', rfl, rfl, rfl⟩ := leftCut.exists_parts rightCut (by omega)
  rw [slice_append_append, ← slice_of_middle before' after'
    (first.of_append_append after (by omega)) (second.of_append_append (by omega) before) (by omega),
    Nat.add_sub_cancel' after, Nat.add_sub_cancel' (Nat.le_trans after ordered)]

theorem slice_isInfix (text : Text) (start stop : Nat) : text.slice start stop <:+: text := by
  have whole := takeBytes_append_dropBytes start text
  have rest := takeBytes_append_dropBytes (stop - start) (text.dropBytes start)
  refine ⟨text.takeBytes start, (text.dropBytes start).dropBytes (stop - start), ?_⟩
  rw [slice, List.append_assoc, rest, whole]

end Stencil.Text

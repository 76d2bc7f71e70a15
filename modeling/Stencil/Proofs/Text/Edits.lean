import Mathlib.Order.Bounds.Basic
import Stencil.Text.Basic

/-!
# Edits

An edit inserts, removes or replaces one character anywhere in a text. The least number of edits that turn
one text into another is found from the first characters of both: no sequence of edits is shorter.
-/

set_option autoImplicit false

namespace Stencil.Text

/-- One edit of a text. -/
inductive Edit : Text → Text → Prop where
  | insert (left right : Text) (character : Char) :
      Edit (left ++ right) (left ++ character :: right)
  | remove (left right : Text) (character : Char) :
      Edit (left ++ character :: right) (left ++ right)
  | replace (left right : Text) (character other : Char) :
      Edit (left ++ character :: right) (left ++ other :: right)

/-- A number of edits one after the other. -/
inductive Edits : Nat → Text → Text → Prop where
  | none {text : Text} : Edits 0 text text
  | more {count : Nat} {text middle target : Text} :
      Edits count text middle → Edit middle target → Edits (count + 1) text target

/-! ## Sequences of edits -/

theorem Edit.cons {text target : Text} (head : Char) (edit : Edit text target) :
    Edit (head :: text) (head :: target) := by
  cases edit with
  | insert left right character => exact .insert (head :: left) right character
  | remove left right character => exact .remove (head :: left) right character
  | replace left right character other => exact .replace (head :: left) right character other

theorem Edit.reverse {text target : Text} (edit : Edit text target) :
    Edit text.reverse target.reverse := by
  cases edit with
  | insert left right character => simpa using Edit.insert right.reverse left.reverse character
  | remove left right character => simpa using Edit.remove right.reverse left.reverse character
  | replace left right character other =>
      simpa using Edit.replace right.reverse left.reverse character other

namespace Edits

variable {count : Nat} {text middle target : Text}

theorem cons (head : Char) (edits : Edits count text target) :
    Edits count (head :: text) (head :: target) := by
  induction edits with
  | none => exact .none
  | more _ edit ih => exact .more ih (edit.cons head)

theorem first (edit : Edit text middle) (edits : Edits count middle target) :
    Edits (count + 1) text target := by
  induction edits with
  | none => exact .more .none edit
  | more _ last ih => exact .more (ih edit) last

/-- Two first characters differ by one edit at most. -/
theorem cons_cons (head other : Char) (edits : Edits count text target) :
    Edits (if head = other then count else count + 1) (head :: text) (other :: target) := by
  split
  · next same => exact same ▸ edits.cons head
  · exact .more (edits.cons head) (.replace [] target head other)

theorem fewer {others : Nat} (edits : Edits count text target) (also : Edits others text target) :
    Edits (min count others) text target :=
  min_rec' (Edits · text target) edits also

theorem reverse (edits : Edits count text target) : Edits count text.reverse target.reverse := by
  induction edits with
  | none => exact .none
  | more _ edit ih => exact .more ih edit.reverse

theorem reverse_iff : Edits count text.reverse target.reverse ↔ Edits count text target :=
  ⟨fun edits => by simpa using edits.reverse, reverse⟩

theorem of_nil (target : Text) : Edits target.length [] target := by
  induction target with
  | nil => exact .none
  | cons head rest ih => exact .more ih (.insert [] rest head)

theorem to_nil (text : Text) : Edits text.length text [] := by
  induction text with
  | nil => exact .none
  | cons head rest ih => exact .first (.remove [] rest head) ih

end Edits

/-! ## The least number of edits -/

/-- The least number of edits from one text to another. The first character of the target is inserted, or
that of the text is removed, or the one takes the place of the other. -/
def leastEdits : (text target : Text) → Nat
  | [], target => target.length
  | text, [] => text.length
  | head :: rest, other :: others =>
      min (min (leastEdits (head :: rest) others + 1) (leastEdits rest (other :: others) + 1))
        (if head = other then leastEdits rest others else leastEdits rest others + 1)
  termination_by text target => text.length + target.length

@[simp] theorem leastEdits_nil_left (target : Text) : leastEdits [] target = target.length := by
  rw [leastEdits]

@[simp] theorem leastEdits_nil_right (text : Text) : leastEdits text [] = text.length := by
  cases text with
  | nil => rw [leastEdits_nil_left]
  | cons head rest => rw [leastEdits]; exact List.cons_ne_nil head rest

theorem leastEdits_cons_cons (head other : Char) (rest others : Text) :
    leastEdits (head :: rest) (other :: others) =
      min (min (leastEdits (head :: rest) others + 1) (leastEdits rest (other :: others) + 1))
        (if head = other then leastEdits rest others else leastEdits rest others + 1) := by
  rw [leastEdits]

theorem edits_leastEdits (text target : Text) : Edits (leastEdits text target) text target := by
  fun_induction leastEdits text target with
  | case1 target => exact .of_nil target
  | case2 text => exact .to_nil text
  | case3 head rest other others beforeInsertion afterRemoval behind =>
      have inserted : Edits (leastEdits (head :: rest) others + 1) (head :: rest) (other :: others) :=
        beforeInsertion.more (.insert [] others other)
      have removed : Edits (leastEdits rest (other :: others) + 1) (head :: rest) (other :: others) :=
        afterRemoval.first (.remove [] rest head)
      exact (inserted.fewer removed).fewer (behind.cons_cons head other)

theorem leastEdits_self (text : Text) : leastEdits text text = 0 := by
  induction text with
  | nil => rw [leastEdits_nil_left, List.length_nil]
  | cons head rest ih => rw [leastEdits_cons_cons, if_pos rfl, ih, Nat.min_zero]

theorem leastEdits_insert_le (text target : Text) (character : Char) :
    leastEdits text (character :: target) ≤ leastEdits text target + 1 := by
  cases text with
  | nil => simp
  | cons head rest =>
      rw [leastEdits_cons_cons]
      exact Nat.le_trans (Nat.min_le_left _ _) (Nat.min_le_left _ _)

theorem leastEdits_cons_le (head : Char) (text target : Text) :
    leastEdits (head :: text) target ≤ leastEdits text target + 1 := by
  cases target with
  | nil => simp
  | cons other others =>
      rw [leastEdits_cons_cons]
      exact Nat.le_trans (Nat.min_le_left _ _) (Nat.min_le_right _ _)

theorem leastEdits_remove_le (text target : Text) (character : Char) :
    leastEdits text target ≤ leastEdits text (character :: target) + 1 := by
  induction text with
  | nil => simp; omega
  | cons head rest ih =>
      have shorter := leastEdits_cons_le head rest target
      rw [leastEdits_cons_cons]
      split <;> omega

theorem leastEdits_replace_le (text target : Text) (character other : Char) :
    leastEdits text (other :: target) ≤ leastEdits text (character :: target) + 1 := by
  induction text with
  | nil => simp
  | cons head rest ih =>
      rw [leastEdits_cons_cons, leastEdits_cons_cons]
      split <;> split <;> omega

/-- An edit of the target changes the least number of edits by one at most, wherever it is made. -/
theorem leastEdits_append_le {left middle target : Text}
    (close : ∀ text, leastEdits text target ≤ leastEdits text middle + 1) (text : Text) :
    leastEdits text (left ++ target) ≤ leastEdits text (left ++ middle) + 1 := by
  induction left generalizing text with
  | nil => exact close text
  | cons other left ih =>
      induction text with
      | nil =>
          have lengths := close []
          simp only [leastEdits_nil_left, List.cons_append, List.length_cons, List.length_append]
            at lengths ⊢
          omega
      | cons head rest shorter =>
          have inserted := ih (head :: rest)
          have replaced := ih rest
          rw [List.cons_append, List.cons_append] at shorter ⊢
          rw [leastEdits_cons_cons, leastEdits_cons_cons]
          split <;> omega

theorem leastEdits_le_of_edit {middle target : Text} (edit : Edit middle target) (text : Text) :
    leastEdits text target ≤ leastEdits text middle + 1 := by
  cases edit with
  | insert left right character =>
      exact leastEdits_append_le (fun text => leastEdits_insert_le text right character) text
  | remove left right character =>
      exact leastEdits_append_le (fun text => leastEdits_remove_le text right character) text
  | replace left right character other =>
      exact leastEdits_append_le (fun text => leastEdits_replace_le text right character other) text

theorem leastEdits_le_of_edits {count : Nat} {text target : Text} (edits : Edits count text target) :
    leastEdits text target ≤ count := by
  induction edits with
  | none => rw [leastEdits_self]
  | more _ edit ih => exact Nat.le_trans (leastEdits_le_of_edit edit _) (Nat.succ_le_succ ih)

theorem isLeast_leastEdits (text target : Text) :
    IsLeast {count | Edits count text target} (leastEdits text target) :=
  ⟨edits_leastEdits text target, fun _ edits => leastEdits_le_of_edits edits⟩

end Stencil.Text

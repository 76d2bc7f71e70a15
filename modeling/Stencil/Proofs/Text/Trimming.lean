import Mathlib.Data.List.TakeWhile
import Stencil.Text.Blank

/-!
# Trimming

A text is what trimming leaves of it, with blanks before and after. What is left neither begins nor ends
with a blank, and no other part of the text stands between blanks in that way.
-/

set_option autoImplicit false

namespace Stencil.Text

/-- A text of blanks only, which may be empty. -/
def Blank (text : Text) : Prop := ∀ character ∈ text, isBlank character = true

/-- A text that neither begins nor ends with a blank. -/
structure Trimmed (text : Text) : Prop where
  head {character : Char} : text.head? = some character → isBlank character = false
  last {character : Char} : text.getLast? = some character → isBlank character = false

theorem Blank.not_mem {text : Text} (blank : text.Blank) {character : Char}
    (visible : isBlank character = false) : character ∉ text := by
  intro member
  rw [blank character member] at visible
  cases visible

variable {before word after : Text}

theorem trim_append_append (blankBefore : Blank before) (trimmed : Trimmed word)
    (blankAfter : Blank after) : (before ++ (word ++ after)).trim = word := by
  have blankReversed : ∀ character ∈ after.reverse, isBlank character = true :=
    fun character member => blankAfter character (List.mem_reverse.mp member)
  rw [trim, trimBoth, List.dropWhile_append_of_pos blankBefore]
  cases word with
  | nil =>
      have dropped : after.dropWhile isBlank = [] := List.dropWhile_eq_nil_iff.mpr blankAfter
      rw [List.nil_append, dropped]
      rfl
  | cons first rest =>
      have kept : (first :: rest ++ after).dropWhile isBlank = first :: rest ++ after := by
        rw [List.cons_append, List.dropWhile_cons_of_neg (by simp [trimmed.head rfl])]
      obtain ⟨last, others, ends⟩ :=
        List.exists_cons_of_ne_nil (l := (first :: rest).reverse) (by simp)
      have visible : isBlank last = false := trimmed.last (by rw [← List.head?_reverse, ends]; rfl)
      rw [kept, List.reverse_append, List.dropWhile_append_of_pos blankReversed, ends,
        List.dropWhile_cons_of_neg (by simp [visible]), ← ends, List.reverse_reverse]

theorem trim_blank_append (blank : Blank before) (text : Text) : (before ++ text).trim = text.trim := by
  rw [trim, trimBoth, List.dropWhile_append_of_pos blank]
  rfl

theorem exists_eq_append_trim (text : Text) :
    ∃ before after, text = before ++ (text.trim ++ after) ∧ Blank before ∧ Trimmed text.trim ∧
      Blank after := by
  let rest := text.dropWhile isBlank
  let after := (rest.reverse.takeWhile isBlank).reverse
  have rest_eq : rest = text.trim ++ after := by
    have whole := congrArg List.reverse (List.takeWhile_append_dropWhile (p := isBlank) (l := rest.reverse))
    rw [List.reverse_append, List.reverse_reverse] at whole
    exact whole.symm
  refine ⟨text.takeWhile isBlank, after, ?_, ?_, ⟨?_, ?_⟩, ?_⟩
  · rw [← rest_eq]
    exact List.takeWhile_append_dropWhile.symm
  · exact fun character member => List.mem_takeWhile_imp member
  · intro character starts
    have first : rest.head? = some character := by rw [rest_eq, List.head?_append, starts]; rfl
    have visible := List.head?_dropWhile_not isBlank text
    rw [first] at visible
    exact visible
  · intro character ends
    have visible := List.head?_dropWhile_not isBlank rest.reverse
    rw [trim, trimBoth, List.getLast?_reverse] at ends
    rw [ends] at visible
    exact visible
  · exact fun character member => List.mem_takeWhile_imp (List.mem_reverse.mp member)

theorem blank_of_trim_eq_nil {text : Text} (trimmed : text.trim = []) : Blank text := by
  obtain ⟨before, after, whole, blankBefore, -, blankAfter⟩ := exists_eq_append_trim text
  rw [trimmed, List.nil_append] at whole
  rw [whole]
  exact List.forall_mem_append.mpr ⟨blankBefore, blankAfter⟩

end Stencil.Text

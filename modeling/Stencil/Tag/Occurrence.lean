import Stencil.Delimiters

/-!
# Occurrences of delimiters

The opening delimiters of a text are found in one pass from left to right, the closing delimiters in
another. Within a pass occurrences do not overlap: the search goes on after the end of what was
found. Where the delimiters of both kinds of tags start at one position, that of variable tags is
taken.
-/

set_option autoImplicit false

namespace Stencil

/-- A delimiter at a byte position of a text. -/
structure Occurrence where
  position : Nat
  lexeme : Text
  deriving DecidableEq, Repr, Inhabited

namespace Occurrence

/-- The byte position just after the delimiter. -/
def stop (occurrence : Occurrence) : Nat := occurrence.position + occurrence.lexeme.size

end Occurrence

/-- Occurrences of `first` and `second` in the rest of a text, which starts at `position`. The next
`skip` characters belong to the occurrence found last and are passed over. -/
def occurrencesFrom (first second : Text) : (position skip : Nat) → Text → List Occurrence
  | _, _, [] => []
  | position, skip + 1, head :: rest =>
      occurrencesFrom first second (position + head.utf8Size) skip rest
  | position, 0, head :: rest =>
      let next := position + head.utf8Size
      if first.isPrefixOf (head :: rest) then
        ⟨position, first⟩ :: occurrencesFrom first second next (first.length - 1) rest
      else if second.isPrefixOf (head :: rest) then
        ⟨position, second⟩ :: occurrencesFrom first second next (second.length - 1) rest
      else occurrencesFrom first second next 0 rest

/-- All occurrences of either of two delimiters from left to right, without overlaps. -/
def occurrences (first second text : Text) : List Occurrence := occurrencesFrom first second 0 0 text

structure Scan where
  opens : List Occurrence
  closes : List Occurrence
  deriving DecidableEq, Repr, Inhabited

/-- Finds the opening and the closing delimiters of both kinds of tags. -/
def Scan.ofText (delimiters : Delimiters) (text : Text) : Scan where
  opens := occurrences delimiters.variableOpen delimiters.blockOpen text
  closes := occurrences delimiters.variableClose delimiters.blockClose text

end Stencil

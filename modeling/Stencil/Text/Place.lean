import Stencil.Text.Basic

/-!
# Places

A place names a character of a text by its line and its column, both counted from one. Only a line
feed ends a line, and columns count characters. A place and a byte position can be found from one
another.
-/

set_option autoImplicit false

namespace Stencil

/-- A line and a column of a text, both counted from one. -/
structure Place where
  /-- One more than the line feeds before the place. -/
  line : Nat
  /-- One more than the characters between the start of the line and the place. -/
  column : Nat
  deriving DecidableEq, Repr, Inhabited

namespace Place

def start : Place := ⟨1, 1⟩

def advance (place : Place) (character : Char) : Place :=
  if character = '\n' then ⟨place.line + 1, 1⟩ else ⟨place.line, place.column + 1⟩

/-- The place at a byte position of a text. -/
def ofPosition (text : Text) (position : Nat) : Place :=
  (text.takeBytes position).foldl advance start

end Place

namespace Text

/-- What follows a number of complete lines. -/
def dropLines : Nat → Text → Text
  | _, [] => []
  | count, head :: rest =>
      if count = 0 then head :: rest
      else dropLines (if head = '\n' then count - 1 else count) rest

end Text

namespace Place

/-- The byte position of a place. A column past the end of the text counts as the first column of
its line. -/
def toPosition (text : Text) (place : Place) : Nat :=
  let line := text.dropLines (place.line - 1)
  let before := line.take (place.column - 1)
  (text.size - Text.size line) + if place.column - 1 < line.length then Text.size before else 0

end Place

end Stencil

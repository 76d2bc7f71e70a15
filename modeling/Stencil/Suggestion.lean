import Stencil.Text.Basic

/-!
# Suggestions

Names that may have been meant by a mistyped one: those that a single edit turns into it, or two
edits if it is longer than three bytes. An edit inserts, removes or replaces one character.
-/

set_option autoImplicit false

namespace Stencil

/-- The row of the table of distances for one more character: from the distances of a text to the
initial parts of `target` to those of the text with `character` after it. `corner` and `row` are
the distances before, of which `corner` belongs to the part of `target` already passed, and `left`
is the distance just found for that part. -/
def distanceRow (character : Char) : (target : Text) → (corner left : Nat) → (row : List Nat) →
    List Nat
  | head :: rest, corner, left, above :: row =>
      let distance :=
        min (min (left + 1) (above + 1)) (if character = head then corner else corner + 1)
      distance :: distanceRow character rest above distance row
  | _, _, _, _ => []

/-- The rows of the table of distances, character by character. `done` is the number of characters
so far, which is the distance to the empty text. -/
def distanceRows (target : Text) : (text : Text) → (done : Nat) → (row : List Nat) → Nat × List Nat
  | [], done, row => (done, row)
  | head :: rest, done, row =>
      distanceRows target rest (done + 1) (distanceRow head target done (done + 1) row)

/-- The least number of edits from one text to another. -/
def editDistance (text target : Text) : Nat :=
  let (done, row) := distanceRows target text 0 (List.range' 1 target.length)
  row.getLast?.getD done

/-- The largest number of edits at which a name is suggested for a mistyped one. -/
def suggestionBound (name : Text) : Nat := if name.size ≤ 3 then 1 else 2

/-- The most names that are suggested. -/
def maxSuggestions : Nat := 3

/-- The names to suggest for a mistyped one: nearest first, and in the given order at one distance.
The name itself is never suggested. -/
def suggestions (name : Text) (available : List Text) : List Text :=
  let atDistance (distance : Nat) := available.filter (editDistance name · = distance)
  ((List.range' 1 (suggestionBound name)).flatMap atDistance).take maxSuggestions

end Stencil

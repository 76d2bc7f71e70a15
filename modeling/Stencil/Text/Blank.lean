import Stencil.Text.Basic
import Stencil.Text.CharRange

/-!
# Blanks

A blank is a character with the Unicode property `White_Space`. Blanks end a path, separate the
words of a tag and are trimmed from either end of a tag's content.
-/

set_option autoImplicit false

namespace Stencil

/-- The ranges of the Unicode property `White_Space`. -/
def blankRanges : List (Nat × Nat) := [
  (0x9, 0xD), (0x20, 0x20), (0x85, 0x85), (0xA0, 0xA0), (0x1680, 0x1680), (0x2000, 0x200A),
  (0x2028, 0x2029), (0x202F, 0x202F), (0x205F, 0x205F), (0x3000, 0x3000)]

def isBlank (character : Char) : Bool := inRanges blankRanges character.toNat

theorem eq_or_eq_of_isWhitespace {character : Char} (white : character.isWhitespace = true) :
    character = ' ' ∨ character = '\t' ∨ character = '\r' ∨ character = '\n' := by
  simpa [Char.isWhitespace, or_assoc] using white

/-- Spaces, tabs and line ends are blanks. -/
theorem isBlank_of_isWhitespace {character : Char} (white : character.isWhitespace = true) :
    isBlank character = true := by
  rcases eq_or_eq_of_isWhitespace white with rfl | rfl | rfl | rfl <;> decide

namespace Text

/-- A text without blanks at either end. -/
def trim (text : Text) : Text := trimBoth isBlank text

/-- The first run of characters other than blanks; empty when there is none. -/
def firstWord (text : Text) : Text := (text.dropWhile isBlank).takeWhile (!isBlank ·)

end Text

end Stencil

/-!
# Ranges of characters

A character class of a standard is a table of closed ranges of code points in increasing order.
-/

set_option autoImplicit false

namespace Stencil

/-- Whether a code point lies in one of the ranges. The ranges increase, so the search stops at the
first one that starts past the code point. -/
def inRanges : (ranges : List (Nat × Nat)) → (codePoint : Nat) → Bool
  | [], _ => false
  | (first, last) :: ranges, codePoint =>
      if codePoint < first then false else codePoint ≤ last || inRanges ranges codePoint

end Stencil

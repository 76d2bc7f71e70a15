import Stencil.Text.Basic

/-!
# Spans

A span is a half-open range of byte positions.
-/

set_option autoImplicit false

namespace Stencil

/-- The positions from `start` up to but not including `stop`. -/
structure Span where
  start : Nat
  stop : Nat
  deriving DecidableEq, Repr, Inhabited

namespace Span

def length (span : Span) : Nat := span.stop - span.start

def contains (span : Span) (position : Nat) : Bool :=
  span.start ≤ position && position < span.stop

end Span

end Stencil

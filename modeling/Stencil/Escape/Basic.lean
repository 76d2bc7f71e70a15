import Stencil.Value

/-!
# Escaping

What is written in the place of a variable tag must be safe where it is read, such as in the text of
an HTML page or in a URL. An escaper turns a value into text that is safe in one context.
-/

set_option autoImplicit false

namespace Stencil

/-- An escaper was given a value that it cannot write. -/
structure EscapeError where
  context : Text
  found : ValueKind
  deriving DecidableEq, Repr

def EscapeError.message (error : EscapeError) : String :=
  s!"cannot escape a {error.found.name} value in the '{String.ofList error.context}' context"

/-- Turns a value into safe text. The fields are options of the single call. -/
abbrev Escaper := Value → Fields → Except EscapeError Text

/-- The escaper that applies a function to strings and takes no other values and no options. -/
def Escaper.ofText (context : Text) (escape : Text → Text) : Escaper := fun value _ =>
  match value.string? with
  | some text => .ok (escape text)
  | none => .error ⟨context, value.kind⟩

end Stencil

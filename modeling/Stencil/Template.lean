import Stencil.Forest.Nesting
import Stencil.Forest.Strict
import Stencil.Tag.Pairing

/-!
# Templates

A template is a text together with the forest of its tags. In strict mode a malformed tag is an
error; in lenient mode opening delimiters that are never closed make no tag, and every other
malformed tag stands in the forest. Too many blocks inside of one another are an error in either
mode.
-/

set_option autoImplicit false

namespace Stencil

/-- Whether malformed tags are errors. -/
inductive Mode where
  | lenient
  | strict
  deriving DecidableEq, Repr, Inhabited

/-- The forest of the tags of a text, with at most `limit` blocks inside of one another. -/
def Forest.parse (delimiters : Delimiters) (mode : Mode) (limit : Nat) (text : Text) :
    Except TemplateError Forest :=
  let pairing := Pairing.ofText delimiters text
  match Forest.ofTags limit pairing.tags with
  | .error tooDeep => .error (Finding.toError text ⟨tooDeep.position, .tooDeep tooDeep.limit⟩)
  | .ok forest =>
      match mode with
      | .lenient => .ok forest
      | .strict =>
          match Finding.earliest? (forest.allFindings pairing.unterminated) with
          | none => .ok forest
          | some finding => .error (finding.toError text)

structure Template where
  source : Text
  forest : Forest
  deriving DecidableEq, Repr, Inhabited

def Template.parse (delimiters : Delimiters) (mode : Mode) (limit : Nat) (source : Text) :
    Except TemplateError Template :=
  (Forest.parse delimiters mode limit source).map fun forest => ⟨source, forest⟩

end Stencil

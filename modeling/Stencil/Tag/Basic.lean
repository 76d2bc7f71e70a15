import Stencil.Text.Blank
import Stencil.Text.Span

/-!
# Tags

A tag is a part of a text between an opening and a closing delimiter, together with both. Variable
tags name a value to be written in their place, block tags control the text around them.
-/

set_option autoImplicit false

namespace Stencil

inductive TagKind where
  | variable
  | block
  deriving DecidableEq, Repr, Inhabited

def TagKind.name : TagKind → String
  | .variable => "variable"
  | .block => "block"

/-- A tag and where it stands in the text that it was found in. -/
structure Tag where
  kind : TagKind
  /-- The byte position of the opening delimiter. -/
  start : Nat
  /-- The byte position just after the closing delimiter. -/
  stop : Nat
  /-- The tag with its delimiters. -/
  full : Text
  /-- The text strictly between the delimiters. -/
  content : Text
  deriving DecidableEq, Repr, Inhabited

namespace Tag

def span (tag : Tag) : Span := ⟨tag.start, tag.stop⟩

/-- The first word of the content, empty if there is none. -/
def keyword (tag : Tag) : Text := tag.content.firstWord

/-- The content without blanks at either end. -/
def path (tag : Tag) : Text := tag.content.trim

def isBlock (tag : Tag) : Bool := tag.kind = .block

end Tag

end Stencil

import Stencil.Escape.Basic
import Stencil.Text.Blank

/-!
# HTML

In the text of a page the five characters with a meaning of their own become entities. In attributes
only quotes are escaped. A text that holds pairs of a name and a quoted value is taken as a list of
attributes: each pair is written anew, and of pairs with one name the last value stands in the first
place.
-/

set_option autoImplicit false

namespace Stencil.Escape

/-! ## Text -/

/-- The entity of a character with a meaning of its own, and any other character itself. -/
def htmlEntity (character : Char) : Text :=
  match character with
  | '&' => "&amp;".toList
  | '<' => "&lt;".toList
  | '>' => "&gt;".toList
  | '"' => "&quot;".toList
  | '\'' => "&#39;".toList
  | other => [other]

/-- Text that stands for itself in the text of a page. -/
def html (text : Text) : Text := text.flatMap htmlEntity

/-! ## Attributes -/

/-- Text with both kinds of quotes as entities. -/
def quotes (text : Text) : Text :=
  text.flatMap fun character =>
    if character = '\'' ∨ character = '"' then "&quot;".toList else [character]

/-- Where the reading of a list of attributes stands. Kept texts are reversed. -/
inductive AttributeCursor where
  | name (name : Text)
  /-- After an equals sign and spaces; `whole` is the name together with them. -/
  | gap (name whole : Text)
  | value (name value : Text)

/-- The pairs of a name and a quoted value in a text. An equals sign at the very start of a name
belongs to it, and so does one that no quoted value follows. A quote without an end ends the list.
-/
def attributes : AttributeCursor → Text → List (Text × Text)
  | _, [] => []
  | .name name, head :: rest =>
      if head = '=' ∧ name ≠ [] then attributes (.gap name ('=' :: name)) rest
      else attributes (.name (head :: name)) rest
  | .gap name whole, head :: rest =>
      if head = ' ' then attributes (.gap name (' ' :: whole)) rest
      else if head = '"' then attributes (.value name []) rest
      else if head = '=' then attributes (.gap whole ('=' :: whole)) rest
      else attributes (.name (head :: whole)) rest
  | .value name value, head :: rest =>
      if head = '"' then
        (Text.trim name.reverse, Text.trim value.reverse) :: attributes (.name []) rest
      else attributes (.value name (head :: value)) rest

/-- Puts a pair at the end of a list, or its value in the place of the one with its name. -/
def setAttribute (pairs : List (Text × Text)) (name value : Text) : List (Text × Text) :=
  match pairs with
  | [] => [(name, value)]
  | (other, held) :: rest =>
      if name = other then (other, value) :: rest
      else (other, held) :: setAttribute rest name value

/-- A pair as it is written in a tag. -/
def writtenAttribute (pair : Text × Text) : Text :=
  pair.1 ++ ('=' :: '"' :: (quotes pair.2 ++ ['"']))

def htmlAttributes (text : Text) : Text :=
  match (attributes (.name []) text).foldl (fun pairs (name, value) => setAttribute pairs name value)
      [] with
  | [] => quotes text
  | pairs => Text.join [' '] (pairs.map writtenAttribute)

end Stencil.Escape

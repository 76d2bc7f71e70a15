import Stencil.Escape.Basic

/-!
# Style sheets

Comments are removed. Of what is left, ASCII letters, digits, tabs and line ends stand for
themselves, and any other character becomes a numeric entity.
-/

set_option autoImplicit false

namespace Stencil.Escape

/-- A text without its comments. `comment` holds what has been read of an open comment after its
two opening characters, last character first. A comment without an end is no comment. -/
def withoutComments : (comment : Option Text) → Text → Text
  | none, [] => []
  | some comment, [] => '/' :: '*' :: comment.reverse
  | none, '/' :: '*' :: rest => withoutComments (some []) rest
  | some _, '*' :: '/' :: rest => withoutComments none rest
  | none, head :: rest => head :: withoutComments none rest
  | some comment, head :: rest => withoutComments (some (head :: comment)) rest

def styleForm (character : Char) : Text :=
  if character.isAlphanum || character == '\t' || character == '\n' || character == '\r' then
    [character]
  else '&' :: '#' :: (Numeral.ofNat character.toNat ++ [';'])

def style (text : Text) : Text := (withoutComments none text).flatMap styleForm

end Stencil.Escape

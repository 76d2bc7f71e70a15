import Stencil.Text.Alphanumeric
import Stencil.Text.Blank

/-!
# Headers of blocks

The content of the tag that opens a conditional block or a loop. The parts of a header are separated
by spaces, tabs and line ends. A path goes on to the next blank of any kind, equals sign or
exclamation mark.

* `if path`, `if path == literal` and `if path != literal`: a literal may stand in single quotes.
* `for name in path`: a name consists of letters, digits and underscores.
-/

set_option autoImplicit false

namespace Stencil

inductive HeaderError where
  /-- A conditional block without keyword or path. -/
  | expectedCondition
  /-- A loop without keyword, name or path. -/
  | expectedIteration
  /-- Text between a path and the end of the header that is no comparison. -/
  | afterCondition (remainder : Text)
  | afterIteration (remainder : Text)
  deriving DecidableEq, Repr

def HeaderError.message : HeaderError → String
  | expectedCondition => "expected `if <path>`"
  | expectedIteration => "expected `for <name> in <path>`"
  | afterCondition remainder =>
      s!"unexpected '{String.ofList remainder}' after condition, expected `==` or `!=`"
  | afterIteration remainder => s!"unexpected '{String.ofList remainder}' after loop source"

namespace Header

def isPathCharacter (character : Char) : Bool :=
  !isBlank character && character != '=' && character != '!'

def isNameCharacter (character : Char) : Bool := isAlphanumeric character || character == '_'

/-- What follows a run of at least one separator. -/
def dropSeparators? : Text → Option Text
  | [] => none
  | head :: rest => if head.isWhitespace then some (rest.dropWhile Char.isWhitespace) else none

/-- A run of at least one character of a class, and what follows it. -/
def run? (belongs : Char → Bool) (text : Text) : Option (Text × Text) :=
  if text.takeWhile belongs = [] then none
  else some (text.takeWhile belongs, text.dropWhile belongs)

/-- What follows a keyword and the separators after it. -/
def dropKeyword? (keyword text : Text) : Option Text :=
  (Text.dropLiteral? keyword text).bind dropSeparators?

end Header

/-- How the text of a value is compared with a literal. -/
inductive Operator where
  | equals
  | differs
  deriving DecidableEq, Repr, Inhabited

namespace Operator

def text : Operator → Text
  | equals => ['=', '=']
  | differs => ['!', '=']

/-- The operator at the start of a text, and what follows it. -/
def read? : Text → Option (Operator × Text)
  | '=' :: '=' :: rest => some (equals, rest)
  | '!' :: '=' :: rest => some (differs, rest)
  | _ => none

end Operator

structure Comparison where
  operator : Operator
  literal : Text
  deriving DecidableEq, Repr, Inhabited

/-- The header of a conditional block. Without a comparison it asks whether the path leads to a
value. -/
structure Condition where
  path : Text
  comparison : Option Comparison
  deriving DecidableEq, Repr, Inhabited

structure Iteration where
  /-- The name under which each item is known in the body. -/
  name : Text
  path : Text
  deriving DecidableEq, Repr, Inhabited

namespace Condition

/-- A literal without one pair of single quotes around it. -/
def unquote (literal : Text) : Text :=
  match literal with
  | '\'' :: rest => if rest.getLast? = some '\'' then rest.dropLast else literal
  | _ => literal

def read (content : Text) : Except HeaderError Condition :=
  let header := do
    let rest ← Header.dropKeyword? "if".toList (content.dropWhile Char.isWhitespace)
    Header.run? Header.isPathCharacter rest
  match header with
  | none => .error .expectedCondition
  | some (path, rest) =>
      match Operator.read? (rest.dropWhile Char.isWhitespace) with
      | some (operator, literal) => .ok ⟨path, some ⟨operator, unquote literal.trim⟩⟩
      | none =>
          if rest.trim = [] then .ok ⟨path, none⟩ else .error (.afterCondition rest.trim)

end Condition

namespace Iteration

def read (content : Text) : Except HeaderError Iteration :=
  let header := do
    let rest ← Header.dropKeyword? "for".toList (content.dropWhile Char.isWhitespace)
    let (name, rest) ← Header.run? Header.isNameCharacter rest
    let rest ← Header.dropSeparators? rest
    let rest ← Header.dropKeyword? "in".toList rest
    let (path, rest) ← Header.run? Header.isPathCharacter rest
    return (name, path, rest)
  match header with
  | none => .error .expectedIteration
  | some (name, path, rest) =>
      if rest.trim = [] then .ok ⟨name, path⟩ else .error (.afterIteration rest.trim)

end Iteration

end Stencil

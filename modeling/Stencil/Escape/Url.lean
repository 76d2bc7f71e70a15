import Stencil.Escape.Basic

/-!
# URLs

A text is encoded as the field of a form: ASCII letters, digits and `-`, `_` and `.` stand for
themselves, a space becomes a plus sign, and every other byte of the UTF-8 form is written by a
percent sign and two hexadecimal digits.

A list or map becomes a query of pairs of a key and a value, one for each scalar inside of it except
null. The key of a scalar is the outermost name or index, with each further one in brackets.
-/

set_option autoImplicit false

namespace Stencil.Escape

/-- The capital hexadecimal digit of a number below sixteen. -/
def capitalHexDigit (number : Nat) : Char := (Nat.digitChar number).toUpper

/-- A byte as it is written in a URL. -/
def urlForm (byte : UInt8) : Text :=
  let character := Char.ofNat byte.toNat
  if byte.toNat < 0x80 && (character.isAlphanum || character ∈ ['-', '_', '.']) then [character]
  else if character = ' ' then ['+']
  else ['%', capitalHexDigit (byte.toNat / 16), capitalHexDigit (byte.toNat % 16)]

def url (text : Text) : Text := (text.flatMap String.utf8EncodeChar).flatMap urlForm

def urlContext : Text := "url".toList

mutual

/-- The keys and texts of the scalars in a value that has a key itself. Host objects have no text.
-/
def leaves (key : Text) : Value → Except EscapeError (List (Text × Text))
  | .null => .ok []
  | .bool truth => .ok [(key, if truth then ['1'] else ['0'])]
  | .number integer => .ok [(key, Numeral.ofInt integer.toInt)]
  | .float real => .ok [(key, Numeral.ofFloat real)]
  | .string text => .ok [(key, text)]
  | .list items => leavesOfItems (fun index => key ++ ('[' :: (index ++ [']']))) 0 items
  | .map entries => leavesOfEntries (fun name => key ++ ('[' :: (name ++ [']']))) entries
  | .object .. => .error ⟨urlContext, .object⟩

/-- The keys and texts of the scalars in the items of a list, which are named by their indices from
`index` on. -/
def leavesOfItems (key : Text → Text) (index : Nat) :
    List Value → Except EscapeError (List (Text × Text))
  | [] => .ok []
  | item :: items => do
      return (← leaves (key (Numeral.ofNat index)) item) ++ (← leavesOfItems key (index + 1) items)

/-- The keys and texts of the scalars in the entries of a map. -/
def leavesOfEntries (key : Text → Text) :
    List (Text × Value) → Except EscapeError (List (Text × Text))
  | [] => .ok []
  | (name, item) :: entries => do
      return (← leaves (key name) item) ++ (← leavesOfEntries key entries)

end

def query (pairs : List (Text × Text)) : Text :=
  Text.join ['&'] (pairs.map fun (key, text) => url key ++ ('=' :: url text))

/-- The escaper of URLs. Only strings, lists and maps can be written. -/
def urlEscaper : Escaper := fun value _ =>
  match value with
  | .string text => .ok (url text)
  | .list items => (leavesOfItems id 0 items).map query
  | .map entries => (leavesOfEntries id entries).map query
  | other => .error ⟨urlContext, other.kind⟩

end Stencil.Escape

import Stencil.Numeral.Hexadecimal
import Stencil.Numeral.Integer
import Stencil.Tag.Basic

/-!
# Written results

Results are written as JSON with two spaces for each level of indentation, or as text in which some
words may be in color.
-/

set_option autoImplicit false

namespace Stencil.Command

/-! ## JSON -/

inductive Scalar where
  | text (value : Text)
  | number (value : Nat)
  | truth (value : Bool)
  deriving DecidableEq, Repr

/-- A written object: its names and members in order. -/
abbrev Record := List (Text × Scalar)

/-- A character inside of the quotes of JSON. -/
def quotedForm (character : Char) : Text :=
  if character = '"' ∨ character = '\\' then ['\\', character]
  else if character = '\x08' then ['\\', 'b']
  else if character = '\t' then ['\\', 't']
  else if character = '\n' then ['\\', 'n']
  else if character = '\x0c' then ['\\', 'f']
  else if character = '\r' then ['\\', 'r']
  else if character.toNat < 0x20 then '\\' :: 'u' :: Numeral.hexDigits 4 character.toNat
  else [character]

def quoted (text : Text) : Text := '"' :: (text.flatMap quotedForm ++ ['"'])

def Scalar.write : Scalar → Text
  | text value => quoted value
  | number value => Numeral.ofNat value
  | truth value => if value then "true".toList else "false".toList

/-- Lines between two brackets, one line for each item, where `indentation` is that of the line with
the opening bracket. -/
def bracketed (opener closer : Char) (indentation : Nat) (items : List Text) : Text :=
  match items with
  | [] => [opener, closer]
  | items =>
      let inner := List.replicate (indentation + 2) ' '
      opener :: '\n' ::
        (Text.join [',', '\n'] (items.map (inner ++ ·)) ++
          ('\n' :: (List.replicate indentation ' ' ++ [closer])))

def Record.write (indentation : Nat) (record : Record) : Text :=
  bracketed '{' '}' indentation
    (record.map fun (name, member) => quoted name ++ (':' :: ' ' :: member.write))

def writeRecords (records : List Record) : Text :=
  bracketed '[' ']' 0 (records.map (Record.write 2))

def Record.ofTag (tag : Tag) : Record :=
  [("kind".toList, .text tag.kind.name.toList), ("start".toList, .number tag.start),
    ("end".toList, .number tag.stop), ("full".toList, .text tag.full),
    ("content".toList, .text tag.content), ("keyword".toList, .text tag.keyword)]

/-! ## Colors -/

inductive Color where
  | red | green | yellow
  deriving DecidableEq, Repr

/-- The number of a color in the sequences that a terminal understands. -/
def Color.code : Color → Text
  | red => ['3', '1']
  | green => ['3', '2']
  | yellow => ['3', '3']

/-- A word in a color, if there are to be colors. -/
def paint (colored : Bool) (color : Color) (word : Text) : Text :=
  if colored then '\x1b' :: '[' :: (color.code ++ ('m' :: (word ++ "\x1b[39m".toList))) else word

end Stencil.Command

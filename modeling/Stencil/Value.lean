import Stencil.Dictionary
import Stencil.Numeral.Shortest

/-!
# Values

The values that a template is rendered against. Scalars have a canonical text; lists, maps and host
objects have none. A host object belongs to the program around the template: it answers reads of
properties and calls of methods without arguments, and is known by its identity.
-/

set_option autoImplicit false

namespace Stencil

inductive Value where
  | null
  | bool (truth : Bool)
  | number (integer : Int64)
  | float (real : Float)
  | string (text : Text)
  | list (items : List Value)
  /-- Values by name. The entries form a dictionary. -/
  | map (entries : List (Text × Value))
  /-- A host object: which one it is, its properties and its methods. -/
  | object (identity : Nat) (property method : Text → Option Value)
  deriving Inhabited

abbrev Fields := Dictionary Value

inductive ValueKind where
  | null | bool | number | float | string | list | map | object
  deriving DecidableEq, Repr

def ValueKind.name : ValueKind → String
  | null => "null"
  | bool => "bool"
  | number => "number"
  | float => "float"
  | string => "string"
  | list => "list"
  | map => "map"
  | object => "object"

namespace Value

def kind : Value → ValueKind
  | null => .null
  | bool _ => .bool
  | number _ => .number
  | float _ => .float
  | string _ => .string
  | list _ => .list
  | map _ => .map
  | object .. => .object

/-- The canonical text of a scalar. Lists, maps and objects have none. -/
def text? : Value → Option Text
  | null => some []
  | bool truth => some (if truth then "true".toList else "false".toList)
  | number integer => some (Numeral.ofInt integer.toInt)
  | float real => some (Numeral.ofFloat real)
  | string text => some text
  | list _ | map _ | object .. => none

def string? : Value → Option Text
  | string text => some text
  | _ => none

/-- What stands for a value where any value may be shown. -/
def display (value : Value) : Text :=
  value.text?.getD ('[' :: value.kind.name.toList ++ [']'])

mutual

/-- Whether two values are equal. Numbers of different kinds differ, floating-point numbers compare
by value, so that the one that is not a number differs from itself, and objects by identity. -/
def equals : Value → Value → Bool
  | null, null => true
  | bool left, bool right => left == right
  | number left, number right => left == right
  | float left, float right => left == right
  | string left, string right => left == right
  | list left, list right => equalItems left right
  | map left, map right => equalEntries left right
  | object left _ _, object right _ _ => left == right
  | _, _ => false

def equalItems : List Value → List Value → Bool
  | [], [] => true
  | left :: lefts, right :: rights => equals left right && equalItems lefts rights
  | _, _ => false

def equalEntries : List (Text × Value) → List (Text × Value) → Bool
  | [], [] => true
  | (name, left) :: lefts, (other, right) :: rights =>
      name == other && equals left right && equalEntries lefts rights
  | _, _ => false

end

instance : BEq Value := ⟨equals⟩

end Value

end Stencil

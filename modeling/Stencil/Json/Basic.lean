import Stencil.Value

/-!
# JSON documents

A JSON document as it is written: the members of an object keep their order and may repeat a name.
As a value, an object has the last member of each name.
-/

set_option autoImplicit false

namespace Stencil

inductive Json where
  | null
  | bool (truth : Bool)
  /-- An integer that fits a signed word of 64 bits. -/
  | integer (number : Int64)
  | real (number : Float)
  | string (text : Text)
  | array (items : List Json)
  | object (members : List (Text × Json))
  deriving Inhabited

namespace Json

mutual

/-- The value that a document stands for. -/
def toValue : Json → Value
  | null => .null
  | bool truth => .bool truth
  | integer number => .number number
  | real number => .float number
  | string text => .string text
  | array items => .list (itemValues items)
  | object members => .map (Dictionary.ofEntries (memberValues members))

def itemValues : List Json → List Value
  | [] => []
  | item :: items => toValue item :: itemValues items

/-- The values of the members of an object, repeated names included. -/
def memberValues : List (Text × Json) → List (Text × Value)
  | [] => []
  | (name, member) :: members => (name, toValue member) :: memberValues members

end

end Json

end Stencil

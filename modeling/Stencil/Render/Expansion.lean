import Stencil.Renderer
import Stencil.Scope

/-!
# Meaning of tags

What is to be written in the place of a variable tag, and which part of a template is to be written
in the place of a block. Both depend on the values in scope alone, not on the text around.
-/

set_option autoImplicit false

namespace Stencil

/-! ## Variables -/

/-- A scalar as its text. Other values are left to the escaper. -/
def Value.normalize (value : Value) : Value :=
  match value.text? with
  | some text => .string text
  | none => value

namespace Tag

/-- The path of a variable tag and the context after the first vertical bar. -/
def pathAndContext (tag : Tag) : Text × Text :=
  match Text.breakOn? ['|'] tag.path with
  | some (path, context) => (path.trim, context.trim)
  | none => (tag.path, Registry.defaultContext)

/-- What is written in the place of a variable tag. A path that leads to nothing counts as an empty
string. -/
def substitution (registry : Registry) (scope : Scope) (tag : Tag) : Except RenderError Text := do
  let (path, context) := tag.pathAndContext
  let value := match ← scope.resolve path with
    | some value => value.normalize
    | none => .string []
  registry.escape value context

end Tag

/-! ## Blocks -/

/-- Whether a condition holds of what its path leads to. A value without a text equals no literal,
and neither does the lack of a value. -/
def Condition.holds (condition : Condition) (found : Option Value) : Bool :=
  match condition.comparison with
  | none => found.isSome
  | some comparison =>
      let equal := found.bind Value.text? == some comparison.literal
      match comparison.operator with
      | .equals => equal
      | .differs => !equal

/-- What is to be written in the place of a block. -/
inductive Expansion where
  /-- The text between two tags as it stands. -/
  | copy (first second : Tag)
  /-- The text between two tags, rendered once. -/
  | fragment (first second : Tag)
  /-- The text between two tags, rendered for each item under a name. -/
  | each (first second : Tag) (name : Text) (items : List Value)
  | nothing

namespace Group

def header {α : Type} (group : Group) (read : Text → Except HeaderError α) : Except RenderError α :=
  (read group.opener.content).mapError fun error => .invalidTag group.opener.full (.header error)

/-- The items of the value that the path of a loop leads to. -/
def items (path : Text) : Option Value → Except RenderError (List Value)
  | none => .error (.variableNotFound path)
  | some (.list items) => .ok items
  | some (.map entries) => .ok (Dictionary.values entries)
  | some other => .error (.notIterable path other.kind)

/-- What is to be written in the place of a block of a family, from its opening to its closing tag.
-/
def expansion (family : Family) (group : Group) (closer : Tag) (scope : Scope) :
    Except RenderError Expansion :=
  match family with
  | .verbatim => .ok (.copy group.opener closer)
  | .conditional => do
      let condition ← group.header Condition.read
      let holds := condition.holds (← scope.resolve condition.path)
      match group.body.else? with
      | some separator =>
          return if holds then .fragment group.opener separator else .fragment separator closer
      | none => return if holds then .fragment group.opener closer else .nothing
  | .loop => do
      let iteration ← group.header Iteration.read
      let items ← items iteration.path (← scope.resolve iteration.path)
      return .each group.opener closer iteration.name items

end Group

end Stencil

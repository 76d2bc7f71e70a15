import Stencil.Render.Error
import Stencil.Value

/-!
# Names and paths

A scope gives values to names: the data of the whole template, and on top of it the name that each
loop around a place binds. A path leads from a name through maps, lists and host objects by segments
that are separated by dots.
-/

set_option autoImplicit false

namespace Stencil

/-- The values of the names at a place of a template. -/
structure Scope where
  /-- What loops have bound, from the innermost out. -/
  bindings : List (Text × Value)
  root : Fields
  deriving Inhabited

/-- A part of a path between two dots. -/
inductive Segment where
  | member (raw : Text)
  /-- A call of a method, with the whole segment and the name of the method. -/
  | call (raw method : Text)
  deriving DecidableEq, Repr

namespace Segment

/-- A segment with both an opening and a closing parenthesis is a call. The name of the method ends
at the first of either. -/
def ofText (raw : Text) : Segment :=
  if '(' ∈ raw ∧ ')' ∈ raw then .call raw (raw.takeWhile fun mark => mark != '(' && mark != ')')
  else .member raw

def raw : Segment → Text
  | member raw => raw
  | call raw _ => raw

end Segment

namespace Scope

def ofFields (root : Fields) : Scope := ⟨[], root⟩

def bind (scope : Scope) (name : Text) (value : Value) : Scope :=
  { scope with bindings := (name, value) :: scope.bindings }

/-- The value of a name: what the innermost loop with this name has bound, or else the data. -/
def get? (scope : Scope) (name : Text) : Option Value :=
  Dictionary.get? (scope.bindings ++ scope.root) name

def depth (scope : Scope) : Nat := scope.bindings.length

/-- Where a segment leads from a value. A property that a host object does not have is null, while a
method that it does not have is an error. -/
def step (current : Value) (segment : Segment) : Except RenderError (Option Value) :=
  match current with
  | .map entries => .ok (Dictionary.get? entries segment.raw)
  | .list items => .ok ((Numeral.toNat? segment.raw).bind (items[·]?))
  | .object _ property method =>
      match segment with
      | .member name => .ok (some ((property name).getD .null))
      | .call _ name =>
          match method name with
          | some value => .ok (some value)
          | none => .error (.methodNotFound name)
  | .null | .bool _ | .number _ | .float _ | .string _ => .ok none

/-- Where segments lead from a value, one after the other. -/
def walk (current : Value) : List Segment → Except RenderError (Option Value)
  | [] => .ok (some current)
  | segment :: segments =>
      match step current segment with
      | .ok (some next) => walk next segments
      | .ok none => .ok none
      | .error error => .error error

/-- Where a path leads. A path that is itself a name, with dots and all, leads to its value. -/
def resolve (scope : Scope) (path : Text) : Except RenderError (Option Value) :=
  match scope.get? path with
  | some value => .ok (some value)
  | none =>
      match Text.split (· == '.') path with
      | [] => .ok none
      | first :: segments =>
          match scope.get? first with
          | none => .ok none
          | some value => walk value (segments.map Segment.ofText)

end Scope

end Stencil

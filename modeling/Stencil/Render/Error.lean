import Stencil.Escape.Basic
import Stencil.Forest.Strict
import Stencil.Header

/-!
# Failures of rendering

Why a template cannot be rendered against some data.
-/

set_option autoImplicit false

namespace Stencil

/-- What is wrong with the tag that opens a block. -/
inductive TagProblem where
  | missingCloser (family : Family)
  | header (error : HeaderError)
  deriving DecidableEq, Repr

def TagProblem.message : TagProblem → String
  | missingCloser family => s!"missing '{String.ofList family.closer}'"
  | header error => error.message

inductive RenderError where
  /-- The path of a loop leads to nothing. -/
  | variableNotFound (path : Text)
  /-- The path of a loop leads to a value without items. -/
  | notIterable (path : Text) (found : ValueKind)
  | unknownContext (name : Text) (suggestions : List Text)
  | methodNotFound (method : Text)
  /-- A value cannot be written in its context. -/
  | escape (error : EscapeError)
  /-- A block cannot be expanded because of its opening tag. -/
  | invalidTag (tag : Text) (problem : TagProblem)
  | maxDepthExceeded (limit : Nat)
  /-- A span lies outside of a document or ends inside of a character. -/
  | spanOutOfBounds (span : Span) (size : Nat)
  | malformed (error : TemplateError)
  deriving DecidableEq, Repr

namespace RenderError

/-- A malformed tag as a failure of rendering. Blocks that are nested too deep are always reported
without a place. -/
def ofTemplateError (error : TemplateError) : RenderError :=
  match error.fault with
  | .tooDeep limit => .maxDepthExceeded limit
  | _ => .malformed error

/-- A question after an unknown name, if there is something to ask. -/
def didYouMean : List Text → String
  | [] => ""
  | suggestions =>
      let listed := String.ofList (Text.join ", ".toList suggestions)
      s!", did you mean: {listed}?"

def message : RenderError → String
  | variableNotFound path => s!"variable '{String.ofList path}' not found for use in for loop"
  | notIterable path found => s!"cannot iterate over '{String.ofList path}': found {found.name}"
  | unknownContext name suggestions =>
      s!"unknown escape context '{String.ofList name}'{didYouMean suggestions}"
  | methodNotFound method => s!"method '{String.ofList method}()' not defined on object"
  | escape error => error.message
  | invalidTag tag problem => s!"invalid tag '{String.ofList tag}': {problem.message}"
  | maxDepthExceeded limit => s!"maximum nesting depth of {limit} exceeded"
  | spanOutOfBounds span size =>
      s!"span {span.start}..{span.stop} out of bounds for document of length {size}"
  | malformed error => error.message

end RenderError

end Stencil

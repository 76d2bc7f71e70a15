import Stencil.Renderer

/-!
# Template files

Reading texts from files, and templates from texts in files.
-/

set_option autoImplicit false

namespace Stencil

inductive ReadError where
  | notFound
  /-- The bytes are not the UTF-8 form of a text. -/
  | notText
  deriving DecidableEq, Repr

def ReadError.name : ReadError → String
  | notFound => "entity not found"
  | notText => "invalid data"

abbrev Files := Text → Option ByteArray

namespace Files

def read (files : Files) (path : Text) : Except ReadError Text :=
  match files path with
  | none => .error .notFound
  | some bytes =>
      match String.fromUTF8? bytes with
      | none => .error .notText
      | some text => .ok text.toList

end Files

inductive LoadError where
  | unreadable (path : Text) (error : ReadError)
  | malformed (path : Text) (error : TemplateError)
  deriving DecidableEq, Repr

def LoadError.message : LoadError → String
  | unreadable path error => s!"failed to read '{String.ofList path}': {error.name}"
  | malformed path error => s!"{String.ofList path}: {error.message}"

def Renderer.load (renderer : Renderer) (files : Files) (path : Text) : Except LoadError Template := do
  let source ← (files.read path).mapError (.unreadable path)
  (renderer.parse source).mapError (.malformed path)

end Stencil

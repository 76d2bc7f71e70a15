import Stencil.Escape.Html
import Stencil.Escape.Script
import Stencil.Escape.Style
import Stencil.Escape.Url
import Stencil.Render.Error
import Stencil.Suggestion
import Stencil.Text.Lowercase

/-!
# Contexts

Escapers are known by the names of their contexts. Names are compared in lower case and without
blanks at either end.
-/

set_option autoImplicit false

namespace Stencil

abbrev Registry := Dictionary Escaper

namespace Registry

/-- The form of a name under which its escaper is kept. -/
def normalName (name : Text) : Text := name.trim.lowercase

/-- Makes an escaper known, in the place of one with the same name. -/
def register (registry : Registry) (name : Text) (escaper : Escaper) : Registry :=
  Dictionary.insert registry (normalName name) escaper

def find? (registry : Registry) (name : Text) : Option Escaper :=
  Dictionary.get? registry (normalName name)

/-- The context that is taken where a tag names none. -/
def defaultContext : Text := "html".toList

def standard : Registry :=
  [("html", Escaper.ofText "html".toList Escape.html),
    ("htmlattr", Escaper.ofText "htmlattr".toList Escape.htmlAttributes),
    ("js", Escaper.ofText "js".toList Escape.script),
    ("css", Escaper.ofText "css".toList Escape.style),
    ("url", Escape.urlEscaper)].foldl
    (fun registry (name, escaper) => registry.register name.toList escaper) []

/-- Writes a value in a context, with options for the escaper. -/
def escapeWith (registry : Registry) (value : Value) (context : Text) (options : Fields) :
    Except RenderError Text :=
  match registry.find? context with
  | some escaper => (escaper value options).mapError .escape
  | none =>
      .error (.unknownContext context
        (suggestions (normalName context) (Dictionary.names registry)))

def escape (registry : Registry) (value : Value) (context : Text) : Except RenderError Text :=
  registry.escapeWith value context []

end Registry

end Stencil

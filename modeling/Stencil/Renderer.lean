import Stencil.Escape.Registry
import Stencil.Template

/-!
# Renderers

What a template is read and rendered with: the delimiters, the known contexts, how malformed tags
are treated, and how many blocks may be nested.
-/

set_option autoImplicit false

namespace Stencil

/-- The settings that templates are read and rendered with. -/
structure Renderer where
  delimiters : Delimiters
  registry : Registry
  mode : Mode
  /-- The number of blocks that may lie inside of one another. -/
  maxDepth : Nat

namespace Renderer

def defaultMaxDepth : Nat := 64

/-- Lenient rendering with the standard delimiters and contexts. -/
def standard : Renderer := ⟨.standard, .standard, .lenient, defaultMaxDepth⟩

instance : Inhabited Renderer := ⟨standard⟩

def parse (renderer : Renderer) (source : Text) : Except TemplateError Template :=
  Template.parse renderer.delimiters renderer.mode renderer.maxDepth source

def register (renderer : Renderer) (name : Text) (escaper : Escaper) : Renderer :=
  { renderer with registry := renderer.registry.register name escaper }

/-- The forest of a part of a template that is read again during rendering. -/
def parseFragment (renderer : Renderer) (text : Text) : Except RenderError Forest :=
  (Forest.parse renderer.delimiters renderer.mode renderer.maxDepth text).mapError
    RenderError.ofTemplateError

end Renderer

end Stencil

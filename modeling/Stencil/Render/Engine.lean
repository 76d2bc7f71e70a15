import Stencil.Document
import Stencil.Render.Expansion

/-!
# Editing a document

A forest is worked off from left to right on the document of the text that it was read from, and
each tag or block is replaced by what it stands for. The part of a template inside of a block is
cut out of the document, read again, and edited in a document of its own, one level deeper. A
block without a closing tag stays, and what follows it is edited in place, one level deeper.

The levels that are left under the limit bound the recursion: what is done at one level is defined
from what is done at the next one.
-/

set_option autoImplicit false

namespace Stencil

/-- Edits a document by a forest. -/
abbrev Executor := Forest → Scope → Editing Unit

namespace Executor

/-- The text that a forest makes of a document of its own. -/
def render (execute : Executor) (forest : Forest) (scope : Scope) (text : Text) :
    Except RenderError Text :=
  match (execute forest scope).run (.ofText text) with
  | .ok _ document => .ok document.text
  | .error error _ => .error error

end Executor

namespace Renderer

/-- What is done one level deeper, if the limit allows it. -/
def deeper? (renderer : Renderer) : Option Executor → Except RenderError Executor
  | some execute => .ok execute
  | none => .error (.maxDepthExceeded renderer.maxDepth)

/-- The text of a part of a template, rendered one level deeper. -/
def renderFragment (renderer : Renderer) (deeper : Option Executor) (text : Text) (scope : Scope) :
    Except RenderError Text := do
  let execute ← renderer.deeper? deeper
  let forest ← renderer.parseFragment text
  execute.render forest scope text

/-- The texts of a part of a template, rendered one level deeper for each item in turn. The part is
read once, and is read even if there are no items. -/
def renderEach (renderer : Renderer) (deeper : Option Executor) (text : Text) (name : Text)
    (items : List Value) (scope : Scope) : Except RenderError Text := do
  let execute ← renderer.deeper? deeper
  let forest ← renderer.parseFragment text
  let texts ← items.mapM fun item => execute.render forest (scope.bind name item) text
  return texts.flatten

/-- Replaces a block by what it stands for, as a block of a family. -/
def expandBlock (renderer : Renderer) (deeper : Option Executor) (family : Family) (group : Group)
    (scope : Scope) : Editing Unit :=
  match group.closer with
  | none => throw (.invalidTag group.opener.full (.missingCloser group.family))
  | some closer => do
      let span : Span := ⟨group.opener.start, closer.stop⟩
      match ← .ofExcept (group.expansion family closer scope) with
      | .copy first second =>
          Editing.replace span (← .between first.span second.span)
      | .fragment first second =>
          let text ← .between first.span second.span
          Editing.replace span (← .ofExcept (renderer.renderFragment deeper text scope))
      | .each first second name items =>
          let text ← .between first.span second.span
          Editing.replace span
            (← .ofExcept (renderer.renderEach deeper text name items scope))
      | .nothing => Editing.replace span []

/-- Works off a forest, with what is done one level deeper given. -/
def walk (renderer : Renderer) (deeper : Option Executor) : Executor
  | .nil, _ => pure ()
  | .tag tag rest, scope => do
      if tag.isBlock then Editing.replace tag.span []
      else Editing.replace tag.span (← .ofExcept (tag.substitution renderer.registry scope))
      walk renderer deeper rest scope
  | .group _ _ body none rest, scope => do
      (← .ofExcept (renderer.deeper? deeper)) body scope
      walk renderer deeper rest scope
  | .group family opener body (some closer) rest, scope => do
      renderer.expandBlock deeper family ⟨family, opener, body, some closer⟩ scope
      walk renderer deeper rest scope

/-- Works off a forest with a number of levels left. -/
def executeWithin (renderer : Renderer) : (levels : Nat) → Executor
  | 0 => renderer.walk none
  | levels + 1 => renderer.walk (some (renderer.executeWithin levels))

/-- Renders a template that has been read, perhaps by another renderer. -/
def renderTemplate (renderer : Renderer) (template : Template) (data : Fields) :
    Except RenderError Text :=
  (renderer.executeWithin renderer.maxDepth).render template.forest (.ofFields data) template.source

def render (renderer : Renderer) (source : Text) (data : Fields) : Except RenderError Text := do
  let template ← (renderer.parse source).mapError RenderError.ofTemplateError
  renderer.renderTemplate template data

end Renderer

/-- A renderer at some level of nesting. -/
structure Engine where
  renderer : Renderer
  /-- The number of blocks around. -/
  depth : Nat
  depth_le : depth ≤ renderer.maxDepth := by omega

namespace Engine

def ofRenderer (renderer : Renderer) : Engine where
  renderer := renderer
  depth := 0

/-- One level deeper, if the limit allows it. -/
def nested (engine : Engine) : Except RenderError Engine :=
  if below : engine.depth < engine.renderer.maxDepth then
    .ok { renderer := engine.renderer, depth := engine.depth + 1 }
  else .error (.maxDepthExceeded engine.renderer.maxDepth)

def levels (engine : Engine) : Nat := engine.renderer.maxDepth - engine.depth

def deeper (engine : Engine) : Option Executor :=
  match engine.levels with
  | 0 => none
  | levels + 1 => some (engine.renderer.executeWithin levels)

def execute (engine : Engine) : Executor := engine.renderer.executeWithin engine.levels

def renderFragment (engine : Engine) (text : Text) (scope : Scope) : Except RenderError Text :=
  engine.renderer.renderFragment engine.deeper text scope

def expandBlock (engine : Engine) (family : Family) (group : Group) (scope : Scope) :
    Editing Unit :=
  engine.renderer.expandBlock engine.deeper family group scope

end Engine

end Stencil

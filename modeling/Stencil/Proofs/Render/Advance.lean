import Stencil.Proofs.Forest.Moving
import Stencil.Proofs.Render.Progress

/-!
# Working off a forest without a document

What a forest makes of a document is determined by how far the text has been worked off. This holds
of all delimiters: the parts of closed blocks are read again, and may well be read as something else
than what stands there.
-/

set_option autoImplicit false

namespace Stencil

/-- How far a forest works off a text. A closed block gives its text, and what stands in an unclosed
block is worked off in place, one level deeper. -/
def Forest.advance (renderer : Renderer) (source : Text) :
    Forest → (levels : Nat) → Scope → Progress → Except RenderError Progress
  | nil, _, _, progress => .ok progress
  | tag single rest, levels, scope, progress => do
      let content ← single.replacement renderer.registry scope
      rest.advance renderer source levels scope (progress.write source single.span content)
  | group _ _ _ none _, 0, _, _ => .error (.maxDepthExceeded renderer.maxDepth)
  | group _ _ body none rest, levels + 1, scope, progress => do
      let inside ← body.advance renderer source levels scope progress
      rest.advance renderer source (levels + 1) scope inside
  | group family opener body (some closer) rest, levels, scope, progress => do
      let content ← renderer.blockText (renderer.deeperWithin levels) source
        ⟨family, opener, body, some closer⟩ closer scope
      rest.advance renderer source levels scope
        (progress.write source ⟨opener.start, closer.stop⟩ content)

namespace Forest

variable {renderer : Renderer} {source : Text} {scope : Scope}

theorem advance_append (first second : Forest) (levels : Nat) (progress : Progress) :
    (first ++ second).advance renderer source levels scope progress =
      first.advance renderer source levels scope progress >>=
        second.advance renderer source levels scope := by
  induction first generalizing progress with
  | nil => rfl
  | tag single rest ih =>
      rw [tag_append, advance, advance, bind_assoc]
      simp only [ih]
  | group family opener body closer rest _ restIH =>
      rw [group_append]
      cases closer with
      | none =>
          cases levels with
          | zero => rfl
          | succ levels =>
              rw [advance, advance, bind_assoc]
              simp only [restIH]
      | some closing =>
          rw [advance, advance, bind_assoc]
          simp only [restIH]

end Forest

namespace Progress.Precedes

variable {source : Text} {progress : Progress} {family : Family} {opener closing : Tag}
  {body rest : Forest}

theorem of_open
    (precedes : progress.Precedes source (Forest.group family opener body none rest).flatten) :
    progress.Precedes source body.flatten :=
  precedes.sublist (by simp [Forest.flatten])

theorem of_closed
    (precedes : progress.Precedes source
      (Forest.group family opener body (some closing) rest).flatten) (content : Text) :
    (progress.write source ⟨opener.start, closing.stop⟩ content).Precedes source rest.flatten :=
  (Tag.Framed.split_cons precedes).2.split.2

end Progress.Precedes

/-- Editing a document that is partly worked off leaves it worked off as far as the forest goes. -/
theorem Renderer.after_executeWithin (renderer : Renderer) {source : Text} {scope : Scope}
    {forest : Forest} (nested : forest.WellNested none) {progress : Progress}
    (precedes : progress.Precedes source forest.flatten) (levels : Nat) :
    (renderer.executeWithin levels forest scope).after (progress.document source) =
      (forest.advance renderer source levels scope progress).map (·.document source) := by
  induction forest generalizing levels progress with
  | nil =>
      rw [executeWithin_eq_walk]
      rfl
  | tag single rest ih =>
      rw [executeWithin_eq_walk, after_walk_tag, ← executeWithin_eq_walk, Forest.advance]
      cases single.replacement renderer.registry scope with
      | error error => rfl
      | ok content =>
          rw [ok_bind, ok_bind, precedes.replace_tag, ok_bind]
          exact ih nested.2.2 (precedes.write_tag content) levels
  | group family opener body closer rest bodyIH restIH =>
      obtain ⟨-, inside, -, last, after⟩ := nested
      rw [executeWithin_eq_walk]
      cases closer with
      | none =>
          obtain rfl := last rfl
          cases levels with
          | zero => rfl
          | succ levels =>
              have inPlace := bodyIH inside.outside precedes.of_open levels
              rw [deeperWithin, after_walk_open, inPlace, Forest.advance]
              cases body.advance renderer source levels scope progress with
              | error error => rfl
              | ok reached => rfl
      | some closing =>
          have divided : progress.Precedes source
              (opener :: (body.flatten ++ closing :: rest.flatten)) := precedes
          rw [after_walk_closed, ← executeWithin_eq_walk, after_expandBlock divided, Forest.advance]
          cases renderer.blockText (renderer.deeperWithin levels) source
            ⟨family, opener, body, some closing⟩ closing scope with
          | error error => rfl
          | ok content => exact restIH after (precedes.of_closed content) levels

/-- A text is worked off up to a place where it can be cut. -/
theorem Forest.isCut_of_advance {renderer : Renderer} {source : Text} {scope : Scope}
    {forest : Forest} (nested : forest.WellNested none) {progress reached : Progress}
    (precedes : progress.Precedes source forest.flatten) {levels : Nat}
    (advances : forest.advance renderer source levels scope progress = .ok reached) :
    source.IsCut reached.reached := by
  induction forest generalizing levels progress reached with
  | nil =>
      cases advances
      exact precedes.isCut_start
  | tag single rest ih =>
      obtain ⟨content, -, advances⟩ := bind_eq_ok_iff.mp advances
      exact ih nested.2.2 (precedes.write_tag content) advances
  | group family opener body closer rest bodyIH restIH =>
      obtain ⟨-, inside, -, last, after⟩ := nested
      cases closer with
      | none =>
          obtain rfl := last rfl
          cases levels with
          | zero => cases advances
          | succ levels =>
              obtain ⟨middle, advances, same⟩ := bind_eq_ok_iff.mp advances
              cases same
              exact bodyIH inside.outside precedes.of_open advances
      | some closing =>
          obtain ⟨content, -, advances⟩ := bind_eq_ok_iff.mp advances
          exact restIH after (precedes.of_closed content) advances

/-- The text that a forest makes with a number of levels left, without a document. -/
theorem Renderer.render_executeWithin (renderer : Renderer) {source : Text} {scope : Scope}
    {forest : Forest} (nested : forest.WellNested none) (order : Tag.InOrder source forest.flatten)
    (levels : Nat) :
    (renderer.executeWithin levels).render forest scope source =
      (forest.advance renderer source levels scope .start).map
        fun progress => (progress.document source).text := by
  rw [Executor.render_eq, ← Progress.document_start,
    renderer.after_executeWithin nested (Progress.precedes_start order), map_map]

/-- The text of a template, rendered without a document. -/
theorem Renderer.renderTemplate_eq_advance (renderer : Renderer) {source : Text} {forest : Forest}
    (nested : forest.WellNested none) (order : Tag.InOrder source forest.flatten) (data : Fields) :
    renderer.renderTemplate ⟨source, forest⟩ data =
      (forest.advance renderer source renderer.maxDepth (.ofFields data) .start).map
        fun progress => (progress.document source).text :=
  renderer.render_executeWithin nested order renderer.maxDepth

end Stencil

import Stencil.Proofs.Render.Progress

/-!
# Blocks are replaced as a whole

To expand a block takes several steps that may fail, and only the last one writes: one text in the
place of the whole block. This holds of every document, also of one that the block was not read from.
-/

set_option autoImplicit false

namespace Stencil

namespace Document

variable {document next : Document} {span : Span} {content : Text}

theorem replace_eq_ok_iff :
    document.replace span content = .ok next ↔
      ∃ located, document.locate? span = some located ∧
        next = ⟨located.before ++ (content ++ located.after),
          document.offset + (content.size - located.inside.size : Int)⟩ := by
  rw [replace, locate]
  cases document.locate? span with
  | none => simp [Except.map]
  | some located => simp [Except.map, eq_comm]

theorem between_eq_ok_iff {first second : Span} :
    document.between first second = .ok content ↔
      ∃ located, document.locate? ⟨first.stop, second.start⟩ = some located ∧
        located.inside = content := by
  rw [between, locate]
  cases document.locate? ⟨first.stop, second.start⟩ with
  | none => simp [Except.map]
  | some located => simp [Except.map]

/-- An offset that has been set from outside is a word. -/
theorem wrapped_setOffset (text : Text) (offset : Int64) :
    ((ofText text).setOffset offset).wrapped = (ofText text).setOffset offset :=
  wrapped_eq_self (Int64.minValue_le_toInt offset) (Int64.toInt_le offset)

end Document

namespace Editing

/-- On a document, an edit either fails and leaves the document as it is, or does nothing but write
one text, of which something is known, in the place of a span. -/
def Replaces (document : Document) (span : Span) (known : Text → Prop) (editing : Editing Unit) :
    Prop :=
  (∃ error, editing.run document = .error error document) ∨
    ∃ content next, known content ∧ document.replace span content = .ok next ∧
      editing.run document = .ok () next

variable {document : Document} {span : Span} {known : Text → Prop}

theorem replaces_replace {content : Text} (holds : known content) :
    Replaces document span known (replace span content) := by
  cases replaced : document.replace span content with
  | error error =>
      refine .inl ⟨error, ?_⟩
      rw [run_replace, replaced]
  | ok next =>
      refine .inr ⟨content, next, holds, replaced, ?_⟩
      rw [run_replace, replaced]

theorem replaces_ofExcept_bind {α : Type} {result : Except RenderError α} {next : α → Editing Unit}
    (each : ∀ value, result = .ok value → Replaces document span known (next value)) :
    Replaces document span known (ofExcept result >>= next) := by
  cases result with
  | error error => exact .inl ⟨error, rfl⟩
  | ok value => exact each value rfl

theorem replaces_between_bind {first second : Span} {next : Text → Editing Unit}
    (each : ∀ text, document.between first second = .ok text →
      Replaces document span known (next text)) :
    Replaces document span known (between first second >>= next) := by
  -- Looking leaves the document as it is, so the next step starts from the same one.
  have step : (between first second >>= next).run document =
      (ofExcept (document.between first second) >>= next).run document := rfl
  rw [Replaces, step]
  exact replaces_ofExcept_bind each

end Editing

/-- A block that is closed is replaced as a whole, and a verbatim block by the text between its
tags. -/
theorem Renderer.replaces_expandBlock (renderer : Renderer) (deeper : Option Executor)
    (family : Family) {group : Group} {closer : Tag} (closed : group.closer = some closer)
    (scope : Scope) (document : Document) :
    Editing.Replaces document ⟨group.opener.start, closer.stop⟩
      (fun content => family = .verbatim →
        document.between group.opener.span closer.span = .ok content)
      (renderer.expandBlock deeper family group scope) := by
  rw [expandBlock, closed]
  apply Editing.replaces_ofExcept_bind
  intro expansion expands
  have notVerbatim (verbatim : family = .verbatim) : expansion = .copy group.opener closer := by
    subst verbatim
    exact (Except.ok.inj expands).symm
  cases expansion with
  | copy first second =>
      apply Editing.replaces_between_bind
      intro text cut
      apply Editing.replaces_replace
      intro verbatim
      obtain ⟨rfl, rfl⟩ := Expansion.copy.inj (notVerbatim verbatim)
      exact cut
  | fragment first second =>
      apply Editing.replaces_between_bind
      intro text cut
      apply Editing.replaces_ofExcept_bind
      intro content rendered
      apply Editing.replaces_replace
      intro verbatim
      cases notVerbatim verbatim
  | each first second name items =>
      apply Editing.replaces_between_bind
      intro text cut
      apply Editing.replaces_ofExcept_bind
      intro content rendered
      apply Editing.replaces_replace
      intro verbatim
      cases notVerbatim verbatim
  | nothing =>
      apply Editing.replaces_replace
      intro verbatim
      cases notVerbatim verbatim

/-- Expanding a block on any document, at any offset, either fails and leaves the document as it is, or
the block is closed and lies in the document, and one text has been written in its place. For a
verbatim block this is the text that the document has between the two tags. -/
theorem Engine.expandBlock_replaces (engine : Engine) (family : Family) (group : Group)
    (scope : Scope) (text : Text) (offset : Int64) :
    match (engine.expandBlock family group scope).apply ((Document.ofText text).setOffset offset) with
    | .error _ document => document = (Document.ofText text).setOffset offset
    | .ok _ document =>
        ∃ closer, group.closer = some closer ∧
          ∃ before inside after output : Text, text = before ++ (inside ++ after) ∧
            (before.size : Int) = group.opener.start + offset.toInt ∧
              (before.size + inside.size : Int) = closer.stop + offset.toInt ∧
                document.text = before ++ (output ++ after) ∧
                  (family = .verbatim →
                    ∃ left right : Text, text = left ++ (output ++ right) ∧
                      (left.size : Int) = group.opener.stop + offset.toInt ∧
                        (left.size + output.size : Int) = closer.start + offset.toInt) := by
  have kept := Document.wrapped_setOffset text offset
  cases closed : group.closer with
  | none =>
      rw [Engine.expandBlock, Renderer.expandBlock, closed]
      exact kept
  | some closer =>
      rcases engine.renderer.replaces_expandBlock engine.deeper family closed scope
        ((Document.ofText text).setOffset offset) with
        ⟨error, fails⟩ | ⟨output, next, known, replaced, runs⟩
      · rw [Engine.expandBlock, Editing.apply, fails]
        exact kept
      · rw [Engine.expandBlock, Editing.apply, runs]
        obtain ⟨located, found, rfl⟩ := Document.replace_eq_ok_iff.mp replaced
        obtain ⟨whole, starts, stops⟩ := Document.locate?_eq_some_iff.mp found
        refine ⟨closer, rfl, located.before, located.inside, located.after, output, whole, starts,
          stops, rfl, ?_⟩
        intro verbatim
        obtain ⟨body, cut, rfl⟩ := Document.between_eq_ok_iff.mp (known verbatim)
        obtain ⟨whole, starts, stops⟩ := Document.locate?_eq_some_iff.mp cut
        exact ⟨body.before, body.after, whole, starts, stops⟩

end Stencil

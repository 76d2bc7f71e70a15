import Stencil.Proofs.Document.Splicing
import Stencil.Proofs.Render.Atomicity
import Stencil.Proofs.Render.Concatenation

/-!
# Executions that fail

An execution that fails has worked off everything before one tag, and nothing of that tag or of what
comes after it.
-/

set_option autoImplicit false

namespace Stencil

namespace Editing

variable {document left : Document} {error : RenderError}

theorem after_of_run {editing : Editing Unit} {next : Document}
    (runs : editing.run document = .ok () next) : editing.after document = .ok next := by
  rw [after, runs]

theorem Replaces.eq_of_run {span : Span} {known : Text → Prop} {editing : Editing Unit}
    (replaces : Replaces document span known editing)
    (failed : editing.run document = .error error left) : left = document := by
  rcases replaces with ⟨cause, fails⟩ | ⟨content, next, -, -, runs⟩
  · rw [fails] at failed
    cases failed
    rfl
  · rw [runs] at failed
    cases failed

end Editing

theorem Tag.replacement_eq_error_iff {tag : Tag} {registry : Registry} {scope : Scope}
    {error : RenderError} :
    tag.replacement registry scope = .error error ↔
      tag.isBlock = false ∧ tag.substitution registry scope = .error error := by
  unfold replacement
  cases tag.isBlock <;> simp

/-- Tags in the first of two texts lie in order in that text. -/
theorem Tag.Framed.inOrder_left {left right : Text} {tags : List Tag}
    (framed : Framed (left ++ right) 0 left.size tags) : InOrder left tags := by
  have isCut {position : Nat} (cut : Text.IsCut (left ++ right) position)
      (within : position ≤ left.size) : left.IsCut position := by
    have whole : Text.IsCut ([] ++ (left ++ right)) position := cut
    have bound : position ≤ Text.size [] + left.size := by rwa [Text.size_nil, Nat.zero_add]
    exact whole.of_append_append (Nat.zero_le _) bound
  refine ⟨fun tag member => ?_, framed.inOrder.pairwise⟩
  have lies := framed.inOrder.liesIn tag member
  have stops := framed.stop_le tag member
  exact ⟨isCut lies.isCut_start (Nat.le_trans lies.start_le_stop stops), isCut lies.isCut_stop stops,
    lies.start_le_stop⟩

namespace Engine

/-! ## Steps of an engine -/

section

variable {engine inner : Engine} {scope : Scope} {document : Document}

theorem levels_of_nested (goes : engine.nested = .ok inner) :
    inner.renderer = engine.renderer ∧ engine.levels = inner.levels + 1 := by
  unfold nested at goes
  split at goes
  · cases goes
    refine ⟨rfl, ?_⟩
    simp only [levels]
    omega
  · cases goes

theorem deeper_eq_deeperWithin (engine : Engine) :
    engine.deeper = engine.renderer.deeperWithin engine.levels := by
  unfold deeper
  cases engine.levels <;> rfl

theorem deeper?_deeper (engine : Engine) :
    engine.renderer.deeper? engine.deeper = engine.nested.map execute := by
  unfold nested
  split
  · have more : engine.levels = engine.renderer.maxDepth - (engine.depth + 1) + 1 := by
      rw [levels]
      omega
    rw [deeper, more]
    rfl
  · have last : engine.levels = 0 := by
      rw [levels]
      omega
    rw [deeper, last]
    rfl

theorem execute_eq_walk (engine : Engine) :
    engine.execute = engine.renderer.walk engine.deeper := by
  rw [execute, Renderer.executeWithin_eq_walk, deeper_eq_deeperWithin]

theorem run_execute_nil (engine : Engine) (scope : Scope) (document : Document) :
    (engine.execute .nil scope).run document = .ok () document := by
  rw [execute_eq_walk]
  rfl

theorem run_execute_tag_error {tag : Tag} {error : RenderError}
    (fails : tag.replacement engine.renderer.registry scope = .error error) (rest : Forest) :
    (engine.execute (.tag tag rest) scope).run document = .error error document := by
  rw [execute_eq_walk, Renderer.walk_tag, fails]
  rfl

theorem run_execute_tag {tag : Tag} {content : Text} {next : Document}
    (written : tag.replacement engine.renderer.registry scope = .ok content)
    (replaced : document.replace tag.span content = .ok next) (rest : Forest) :
    (engine.execute (.tag tag rest) scope).run document = (engine.execute rest scope).run next := by
  have replaces : (Editing.replace tag.span content).run document = .ok () next := by
    rw [Editing.run_replace, replaced]
  rw [execute_eq_walk, Renderer.walk_tag, written, EStateM.run_bind, Editing.run_ofExcept_ok]
  simp only [EStateM.run_bind, replaces]

theorem run_execute_open_error {error : RenderError} (fails : engine.nested = .error error)
    (family : Family) (opener : Tag) (body rest : Forest) :
    (engine.execute (.group family opener body none rest) scope).run document =
      .error error document := by
  rw [execute_eq_walk, Renderer.walk, deeper?_deeper, fails]
  rfl

theorem run_execute_open (goes : engine.nested = .ok inner) (family : Family) (opener : Tag)
    (body : Forest) :
    (engine.execute (.group family opener body none .nil) scope).run document =
      (inner.execute body scope).run document := by
  rw [execute_eq_walk, Renderer.walk, deeper?_deeper, goes]
  have ends : (inner.execute body scope >>= fun _ => pure ()) = inner.execute body scope :=
    bind_pure_unit
  exact congrArg (fun editing : Editing Unit => editing.run document) ends

private theorem execute_closed (family : Family) (opener closer : Tag) (body rest : Forest) :
    engine.execute (.group family opener body (some closer) rest) scope =
      (do
        engine.expandBlock family ⟨family, opener, body, some closer⟩ scope
        engine.execute rest scope) := by
  rw [execute_eq_walk]
  rfl

theorem run_execute_closed_error {family : Family} {opener closer : Tag} {body : Forest}
    {error : RenderError} {left : Document}
    (fails : (engine.expandBlock family ⟨family, opener, body, some closer⟩ scope).run document =
      .error error left) (rest : Forest) :
    (engine.execute (.group family opener body (some closer) rest) scope).run document =
      .error error left := by
  rw [execute_closed, EStateM.run_bind, fails]

theorem run_execute_closed {family : Family} {opener closer : Tag} {body : Forest} {next : Document}
    (expands : (engine.expandBlock family ⟨family, opener, body, some closer⟩ scope).run document =
      .ok () next) (rest : Forest) :
    (engine.execute (.group family opener body (some closer) rest) scope).run document =
      (engine.execute rest scope).run next := by
  rw [execute_closed, EStateM.run_bind, expands]

end

/-! ## The tag that fails -/

/-- An engine fails at a tag of a forest, on a document where what comes before that tag has been
worked off. Of the unclosed blocks around the tag, only the part before the tag counts. -/
inductive FailsAt (scope : Scope) (document : Document) (error : RenderError) :
    Engine → (forest before : Forest) → Tag → Prop where
  /-- The value of a variable cannot be written. -/
  | value {engine : Engine} {tag : Tag} {rest : Forest} (notBlock : tag.isBlock = false)
      (fails : tag.substitution engine.renderer.registry scope = .error error) :
      FailsAt scope document error engine (.tag tag rest) .nil tag
  /-- A closed block cannot be expanded. -/
  | block {engine : Engine} {family : Family} {opener closer : Tag} {body rest : Forest}
      (fails : (engine.expandBlock family ⟨family, opener, body, some closer⟩ scope).run document =
        .error error document) :
      FailsAt scope document error engine (.group family opener body (some closer) rest) .nil opener
  /-- An unclosed block lies too deep. -/
  | tooDeep {engine : Engine} {family : Family} {opener : Tag} {body rest : Forest}
      (fails : engine.nested = .error error) :
      FailsAt scope document error engine (.group family opener body none rest) .nil opener
  | afterTag {engine : Engine} {tag failing : Tag} {rest before : Forest}
      (fails : FailsAt scope document error engine rest before failing) :
      FailsAt scope document error engine (.tag tag rest) (.tag tag before) failing
  | afterBlock {engine : Engine} {family : Family} {opener closer failing : Tag}
      {body rest before : Forest}
      (fails : FailsAt scope document error engine rest before failing) :
      FailsAt scope document error engine (.group family opener body (some closer) rest)
        (.group family opener body (some closer) before) failing
  | inside {engine inner : Engine} {family : Family} {opener failing : Tag}
      {body rest before : Forest} (goes : engine.nested = .ok inner)
      (fails : FailsAt scope document error inner body before failing) :
      FailsAt scope document error engine (.group family opener body none rest)
        (.group family opener before none .nil) failing

namespace FailsAt

variable {scope : Scope} {document : Document} {error : RenderError} {engine : Engine}
  {forest before : Forest} {tag : Tag}

theorem exists_flatten_eq (fails : FailsAt scope document error engine forest before tag) :
    ∃ after, forest.flatten = before.flatten ++ tag :: after := by
  induction fails with
  | value notBlock fails => exact ⟨_, rfl⟩
  | block fails => exact ⟨_, rfl⟩
  | tooDeep fails => exact ⟨_, rfl⟩
  | afterTag fails ih =>
      obtain ⟨after, same⟩ := ih
      exact ⟨after, by simp [Forest.flatten, same]⟩
  | afterBlock fails ih =>
      obtain ⟨after, same⟩ := ih
      exact ⟨after, by simp [Forest.flatten, same]⟩
  | @inside _ _ _ _ _ _ rest _ goes fails ih =>
      obtain ⟨after, same⟩ := ih
      exact ⟨after ++ rest.flatten, by simp [Forest.flatten, same]⟩

theorem wellNested (fails : FailsAt scope document error engine forest before tag)
    {around : Option Family} (nested : forest.WellNested around) : before.WellNested around := by
  induction fails generalizing around with
  | value notBlock fails => trivial
  | block fails => trivial
  | tooDeep fails => trivial
  | afterTag fails ih =>
      obtain ⟨opens, closes, later⟩ := nested
      exact ⟨opens, closes, ih later⟩
  | afterBlock fails ih =>
      obtain ⟨opens, body, closes, last, later⟩ := nested
      exact ⟨opens, body, closes, fun absent => (nomatch absent), ih later⟩
  | inside goes fails ih =>
      obtain ⟨opens, body, -, -, -⟩ := nested
      exact ⟨opens, ih body, fun _ absent => (nomatch absent), fun _ => rfl, trivial⟩

end FailsAt

/-- From a document that is partly worked off, an execution that fails goes on to one tag, and stops
with everything before that tag worked off. -/
theorem exists_failsAt {scope : Scope} {source : Text} {error : RenderError} {document : Document}
    {forest : Forest} (nested : forest.WellNested none) {engine : Engine} {progress : Progress}
    (precedes : progress.Precedes source forest.flatten)
    (failed : (engine.execute forest scope).run (progress.document source) =
      .error error document) :
    ∃ before tag reached, engine.FailsAt scope document error forest before tag ∧
      before.advance engine.renderer source engine.levels scope progress = .ok reached ∧
        document = reached.document source := by
  induction forest generalizing engine progress with
  | nil =>
      rw [run_execute_nil] at failed
      cases failed
  | tag single rest ih =>
      cases written : single.replacement engine.renderer.registry scope with
      | error cause =>
          rw [run_execute_tag_error written] at failed
          cases failed
          obtain ⟨notBlock, fails⟩ := Tag.replacement_eq_error_iff.mp written
          exact ⟨.nil, single, progress, .value notBlock fails, rfl, rfl⟩
      | ok content =>
          rw [run_execute_tag written (precedes.replace_tag content)] at failed
          obtain ⟨before, tag, reached, fails, advances, left⟩ :=
            ih nested.2.2 (precedes.write_tag content) failed
          refine ⟨.tag single before, tag, reached, fails.afterTag, ?_, left⟩
          rw [Forest.advance, written]
          exact advances
  | group family opener body closer rest bodyIH restIH =>
      obtain ⟨-, inside, -, last, after⟩ := nested
      cases closer with
      | none =>
          obtain rfl := last rfl
          cases goes : engine.nested with
          | error cause =>
              rw [run_execute_open_error goes] at failed
              cases failed
              exact ⟨.nil, opener, progress, .tooDeep goes, rfl, rfl⟩
          | ok inner =>
              -- The body is worked off in the same document, by the engine one level deeper.
              obtain ⟨sameRenderer, levels⟩ := levels_of_nested goes
              rw [run_execute_open goes] at failed
              obtain ⟨before, tag, reached, fails, advances, left⟩ :=
                bodyIH inside.outside precedes.of_open failed
              refine ⟨.group family opener before none .nil, tag, reached, fails.inside goes, ?_, left⟩
              rw [levels, Forest.advance, ← sameRenderer, advances]
              rfl
      | some closing =>
          have divided : progress.Precedes source
              (opener :: (body.flatten ++ closing :: rest.flatten)) := precedes
          cases expanded : (engine.expandBlock family ⟨family, opener, body, some closing⟩ scope).run
            (progress.document source) with
          | error cause kept =>
              rw [run_execute_closed_error expanded] at failed
              cases failed
              -- A block that cannot be expanded leaves the document as it was before the block.
              obtain rfl := (engine.renderer.replaces_expandBlock engine.deeper family rfl scope
                (progress.document source)).eq_of_run expanded
              exact ⟨.nil, opener, progress, .block expanded, rfl, rfl⟩
          | ok _ middle =>
              rw [run_execute_closed expanded] at failed
              have written := Editing.after_of_run expanded
              rw [expandBlock, Renderer.after_expandBlock divided, deeper_eq_deeperWithin] at written
              obtain ⟨content, block, rfl⟩ := map_eq_ok_iff.mp written
              obtain ⟨before, tag, reached, fails, advances, left⟩ :=
                restIH after (precedes.of_closed content) failed
              refine ⟨.group family opener body (some closing) before, tag, reached,
                fails.afterBlock, ?_, left⟩
              rw [Forest.advance, block]
              exact advances

/-- An execution that fails on a text, at whatever depth, has met a tag that it fails at: a variable,
a closed block, or an unclosed block that lies too deep, in any number of unclosed blocks. The document
holds what the execution makes of everything before that tag, followed by the text from that tag on, and
its offset is the difference of the lengths before the tag. -/
theorem failsAt_of_execute_error {delimiters : Delimiters} {mode : Mode} {limit : Nat} {text : Text}
    {forest : Forest} (parsed : Forest.parse delimiters mode limit text = .ok forest)
    {engine : Engine} {scope : Scope} {error : RenderError} {document : Document}
    (failed : (engine.execute forest scope).run (.ofText text) = .error error document) :
    ∃ before tag left right output, engine.FailsAt scope document error forest before tag ∧
      text = left ++ right ∧ left.size = tag.start ∧
        engine.execute.render before scope left = .ok output ∧
          document = ⟨output ++ right, output.size - left.size⟩ ∧
            ((text.size : Int) ≤ Int64.maxValue.toInt →
              (document.text.size : Int) ≤ Int64.maxValue.toInt → document.wrapped = document) := by
  obtain ⟨nested, -, -⟩ := Forest.of_ofTags (Forest.ofTags_of_parse parsed)
  have order := Forest.inOrder_of_parse parsed
  rw [← Progress.document_start] at failed
  obtain ⟨before, tag, reached, fails, advances, rfl⟩ :=
    exists_failsAt nested (Progress.precedes_start order) failed
  obtain ⟨after, flat⟩ := fails.exists_flatten_eq
  have framed := (flat ▸ order).framed.split.1
  obtain ⟨left, right, rfl, same⟩ := framed.isCut_stop
  rw [← same] at framed
  have beforeNested := fails.wellNested nested
  have beforeOrder := framed.inOrder_left
  rw [Forest.advance_left engine.renderer scope left right beforeNested beforeOrder] at advances
  have cut := Forest.isCut_of_advance beforeNested (Progress.precedes_start beforeOrder) advances
  have rendered : engine.execute.render before scope left = .ok (reached.document left).text := by
    rw [execute, engine.renderer.render_executeWithin beforeNested beforeOrder, advances]
    rfl
  have flushed : reached.document (left ++ right) =
      ⟨(reached.document left).text ++ right, (reached.document left).text.size - left.size⟩ := by
    rw [Progress.document_flush cut]
    simp [Progress.document, Progress.shift, Progress.start]
  refine ⟨before, tag, left, right, _, fails, rfl, same, rendered, flushed, ?_⟩
  exact Document.wrapped_of_size_le (Progress.offset_document (cut.append right))

/-- A variable and an unclosed block before a variable whose context is not known. -/
theorem failsAt_of_execute_error_unclosed :
    let text : Text := "é{{ x }}{% if x %}{{ x|no }}é".toList
    let forest : Forest :=
      .tag ⟨.variable, 2, 9, "{{ x }}".toList, " x ".toList⟩ <|
        .group .conditional ⟨.block, 9, 19, "{% if x %}".toList, " if x ".toList⟩
          (.tag ⟨.variable, 19, 29, "{{ x|no }}".toList, " x|no ".toList⟩ .nil) none .nil
    let scope : Scope := .ofFields [("x".toList, .string "<".toList)]
    let document : Document := ⟨"é&lt;{% if x %}{{ x|no }}é".toList, -3⟩
    Forest.parse .standard .lenient 1 text = .ok forest ∧
      ∃ error, ((ofRenderer .standard).execute forest scope).run (.ofText text) =
          .error error document ∧
        document.wrapped = document ∧
          ∃ before tag left right output,
            (ofRenderer .standard).FailsAt scope document error forest before tag ∧
              text = left ++ right ∧ left.size = tag.start ∧
                (ofRenderer .standard).execute.render before scope left = .ok output ∧
                  document = ⟨output ++ right, output.size - left.size⟩ := by
  intro text forest scope document
  have parsed : Forest.parse .standard .lenient 1 text = .ok forest := by decide +kernel
  have escaped : Tag.replacement .standard scope ⟨.variable, 2, 9, "{{ x }}".toList, " x ".toList⟩ =
      .ok "&lt;".toList := by decide +kernel
  have written : (Document.ofText text).replace ⟨2, 9⟩ "&lt;".toList = .ok document := by
    decide +kernel
  have goes : (ofRenderer .standard).nested = .ok ⟨.standard, 1, by decide⟩ := rfl
  have refused : Tag.replacement .standard scope
      ⟨.variable, 19, 29, "{{ x|no }}".toList, " x|no ".toList⟩ =
        .error (.unknownContext "no".toList []) := by decide +kernel
  have failed : ((ofRenderer .standard).execute forest scope).run (.ofText text) =
      .error (.unknownContext "no".toList []) document := by
    rw [run_execute_tag escaped written, run_execute_open goes]
    exact run_execute_tag_error refused .nil
  obtain ⟨before, tag, left, right, output, fails, whole, starts, rendered, same, fits⟩ :=
    failsAt_of_execute_error parsed failed
  exact ⟨parsed, _, failed, fits (by decide) (by decide), before, tag, left, right, output, fails,
    whole, starts, rendered, same⟩

end Engine

end Stencil

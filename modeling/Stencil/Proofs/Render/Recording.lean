import Stencil.Proofs.Render.Progress

/-!
# Recorded renderings

A rendering that keeps a record of itself: the document at each node that it comes to, together with
what has been written and how much of the text has been used up, and each text that is read again.
Without the record it is the rendering.
-/

set_option autoImplicit false

namespace Stencil

/-- What is recorded of a rendering. -/
inductive Event where
  /-- The first node of a forest is about to be worked off. The forest was read from a text, and the
  document was that text at first. -/
  | visit (origin : Text) (forest : Forest) (progress : Progress) (document : Document)
  /-- A text that was cut out between two tags is about to be read. -/
  | reading (origin : Text) (first second : Tag) (text : Text)

/-- A document under editing, how far it has been worked off, and what has been recorded. -/
structure Tape where
  document : Document
  progress : Progress
  events : List Event

/-- A change of a document with a record. -/
abbrev Recording := EStateM RenderError Tape

/-- Edits a document that was a text at first by a forest. -/
abbrev Recorder := Forest → Scope → (origin : Text) → Recording Unit

namespace Recording

/-- A result that changes nothing. -/
def ofExcept {α : Type} : Except RenderError α → Recording α
  | .ok result => pure result
  | .error error => throw error

/-- An edit that is not recorded. -/
def edit {α : Type} (editing : Editing α) : Recording α := fun tape =>
  match editing.run tape.document with
  | .ok result document => .ok result { tape with document }
  | .error error document => .error error { tape with document }

theorem run_edit {α : Type} (editing : Editing α) (tape : Tape) :
    (edit editing).run tape =
      match editing.run tape.document with
      | .ok result document => .ok result { tape with document }
      | .error error document => .error error { tape with document } := rfl

/-- Adds to the record. -/
def record (event : Event) : Recording Unit :=
  modify fun tape => { tape with events := tape.events ++ [event] }

/-- Records that a node comes next. -/
def visit (origin : Text) (forest : Forest) : Recording Unit := do
  let tape ← get
  record (.visit origin forest tape.progress tape.document)

/-- Writes a text in the place of a span. What is before the span has been copied. -/
def replace (origin : Text) (span : Span) (content : Text) : Recording Unit := do
  edit (Editing.replace span content)
  modify fun tape => { tape with progress := tape.progress.write origin span content }

end Recording

/-- The text that a forest makes of a document of its own, with the same record. -/
def Recorder.render (execute : Recorder) (forest : Forest) (scope : Scope) (text : Text) :
    Recording Text := fun tape =>
  match (execute forest scope text).run ⟨.ofText text, .start, tape.events⟩ with
  | .ok _ inner => .ok inner.document.text { tape with events := inner.events }
  | .error error inner => .error error { tape with events := inner.events }

theorem Recorder.run_render (execute : Recorder) (forest : Forest) (scope : Scope) (text : Text)
    (tape : Tape) :
    (execute.render forest scope text).run tape =
      match (execute forest scope text).run ⟨.ofText text, .start, tape.events⟩ with
      | .ok _ inner => .ok inner.document.text { tape with events := inner.events }
      | .error error inner => .error error { tape with events := inner.events } := rfl

namespace Renderer

/-- Reads a text that was cut out between two tags. -/
def recordReading (renderer : Renderer) (origin : Text) (first second : Tag) (text : Text) :
    Recording Forest := do
  Recording.record (.reading origin first second text)
  Recording.ofExcept (renderer.parseFragment text)

/-- What is done one level deeper, if the limit allows it. -/
def recordDeeper (renderer : Renderer) : Option Recorder → Recording Recorder
  | some execute => pure execute
  | none => throw (.maxDepthExceeded renderer.maxDepth)

/-- The text that an expansion stands for. -/
def recordExpansion (renderer : Renderer) (deeper : Option Recorder) (origin : Text)
    (scope : Scope) : Expansion → Recording Text
  | .copy first second => .edit (.between first.span second.span)
  | .fragment first second => do
      let text ← .edit (.between first.span second.span)
      let execute ← renderer.recordDeeper deeper
      let forest ← renderer.recordReading origin first second text
      execute.render forest scope text
  | .each first second name items => do
      let text ← .edit (.between first.span second.span)
      let execute ← renderer.recordDeeper deeper
      let forest ← renderer.recordReading origin first second text
      let texts ← items.mapM fun item => execute.render forest (scope.bind name item) text
      return texts.flatten
  | .nothing => pure []

/-- Works off a forest, with what is done one level deeper given. -/
def recordWalk (renderer : Renderer) (deeper : Option Recorder) : Recorder
  | .nil, _, _ => pure ()
  | .tag tag rest, scope, origin => do
      Recording.visit origin (.tag tag rest)
      let content ← .ofExcept (tag.replacement renderer.registry scope)
      Recording.replace origin tag.span content
      recordWalk renderer deeper rest scope origin
  | .group family opener body none rest, scope, origin => do
      Recording.visit origin (.group family opener body none rest)
      (← renderer.recordDeeper deeper) body scope origin
      recordWalk renderer deeper rest scope origin
  | .group family opener body (some closer) rest, scope, origin => do
      Recording.visit origin (.group family opener body (some closer) rest)
      let expansion ← .ofExcept
        (Group.expansion family ⟨family, opener, body, some closer⟩ closer scope)
      let content ← renderer.recordExpansion deeper origin scope expansion
      Recording.replace origin ⟨opener.start, closer.stop⟩ content
      recordWalk renderer deeper rest scope origin

/-- Works off a forest with a number of levels left. -/
def recordWithin (renderer : Renderer) : (levels : Nat) → Recorder
  | 0 => renderer.recordWalk none
  | levels + 1 => renderer.recordWalk (some (renderer.recordWithin levels))

end Renderer

/-- The outcome of a rendering and all that was recorded of it. -/
structure Recorded where
  outcome : Except RenderError Text
  events : List Event

/-- Renders a template with a record. -/
def Renderer.recordTemplate (renderer : Renderer) (template : Template) (data : Fields) : Recorded :=
  match (renderer.recordWithin renderer.maxDepth template.forest (.ofFields data)
      template.source).run ⟨.ofText template.source, .start, []⟩ with
  | .ok _ tape => ⟨.ok tape.document.text, tape.events⟩
  | .error error tape => ⟨.error error, tape.events⟩

/-! ## Without the record -/

namespace Recording

variable {α β : Type}

/-- A result with only the document of its tape. -/
def erase : EStateM.Result RenderError Tape α → EStateM.Result RenderError Document α
  | .ok result tape => .ok result tape.document
  | .error error tape => .error error tape.document

/-- Without its record, a recording is an edit. -/
def Erases (recording : Recording α) (editing : Editing α) : Prop :=
  ∀ tape, erase (recording.run tape) = editing.run tape.document

theorem Erases.bind {first : Recording α} {firstEditing : Editing α} {next : α → Recording β}
    {nextEditing : α → Editing β} (firstErases : first.Erases firstEditing)
    (nextErases : ∀ value, (next value).Erases (nextEditing value)) :
    (first >>= next).Erases (firstEditing >>= nextEditing) := by
  intro tape
  have erased := firstErases tape
  rw [EStateM.run_bind, EStateM.run_bind, ← erased]
  cases first.run tape with
  | ok value changed => exact nextErases value changed
  | error error changed => rfl

theorem erases_pure (value : α) : (pure value : Recording α).Erases (pure value) := by
  intro tape
  rfl

theorem erases_ofExcept (result : Except RenderError α) :
    (ofExcept result).Erases (Editing.ofExcept result) := by
  intro tape
  cases result <;> rfl

theorem erases_edit (editing : Editing α) : (edit editing).Erases editing := by
  intro tape
  rw [run_edit]
  cases editing.run tape.document <;> rfl

theorem erases_record_bind (event : Event) {next : Recording α} {editing : Editing α}
    (nextErases : next.Erases editing) : (do record event; next : Recording α).Erases editing :=
  fun tape => nextErases { tape with events := tape.events ++ [event] }

theorem erases_visit_bind (origin : Text) (forest : Forest) {next : Recording α}
    {editing : Editing α} (nextErases : next.Erases editing) :
    (do visit origin forest; next : Recording α).Erases editing :=
  fun tape => nextErases { tape with
    events := tape.events ++ [.visit origin forest tape.progress tape.document] }

theorem erases_replace (origin : Text) (span : Span) (content : Text) :
    (replace origin span content).Erases (Editing.replace span content) := by
  intro tape
  have erased := erases_edit (Editing.replace span content) tape
  rw [replace, EStateM.run_bind, ← erased]
  cases (edit (Editing.replace span content)).run tape <;> rfl

theorem erases_mapM (items : List α) {step : α → Recording β}
    {stepResult : α → Except RenderError β}
    (each : ∀ item, (step item).Erases (Editing.ofExcept (stepResult item))) :
    (items.mapM step).Erases (Editing.ofExcept (items.mapM stepResult)) := by
  induction items with
  | nil => exact erases_pure []
  | cons item items ih =>
      rw [List.mapM_cons, List.mapM_cons, Editing.ofExcept_bind]
      refine (each item).bind fun value => ?_
      rw [Editing.ofExcept_bind]
      exact ih.bind fun values => erases_pure (value :: values)

end Recording

/-- Without its records, a recorder is an executor. -/
def Recorder.Erases (recorder : Recorder) (executor : Executor) : Prop :=
  ∀ forest scope origin, (recorder forest scope origin).Erases (executor forest scope)

theorem Recorder.Erases.render {recorder : Recorder} {executor : Executor}
    (erases : recorder.Erases executor) (forest : Forest) (scope : Scope) (text : Text) :
    (recorder.render forest scope text).Erases
      (Editing.ofExcept (executor.render forest scope text)) := by
  intro tape
  have erased := erases forest scope text ⟨.ofText text, .start, tape.events⟩
  rw [run_render, Executor.render, ← erased]
  cases (recorder forest scope text).run ⟨.ofText text, .start, tape.events⟩ <;> rfl

namespace Renderer

variable {renderer : Renderer}

theorem erases_recordReading (origin : Text) (first second : Tag) (text : Text) :
    (renderer.recordReading origin first second text).Erases
      (Editing.ofExcept (renderer.parseFragment text)) :=
  Recording.erases_record_bind _ (Recording.erases_ofExcept _)

/-- What is done one level deeper is the same without the record, or the limit is reached in both. -/
def DeeperErases : Option Recorder → Option Executor → Prop
  | some recorder, some executor => recorder.Erases executor
  | none, none => True
  | _, _ => False

variable {recorder : Option Recorder} {executor : Option Executor}

theorem DeeperErases.bind {α : Type} {next : Recorder → Recording α}
    {nextEditing : Executor → Editing α} (deeper : DeeperErases recorder executor)
    (each : ∀ record execute, record.Erases execute → (next record).Erases (nextEditing execute)) :
    (renderer.recordDeeper recorder >>= next).Erases
      (Editing.ofExcept (renderer.deeper? executor) >>= nextEditing) := by
  cases recorder with
  | none =>
      cases executor with
      | none => exact fun _ => rfl
      | some execute => cases deeper
  | some record =>
      cases executor with
      | none => cases deeper
      | some execute => exact fun tape => each record execute deeper tape

private theorem erases_recordFragment (deeper : DeeperErases recorder executor) (origin : Text)
    (first second : Tag) (text : Text) (scope : Scope) :
    (do
      let execute ← renderer.recordDeeper recorder
      let forest ← renderer.recordReading origin first second text
      execute.render forest scope text : Recording Text).Erases
        (Editing.ofExcept (renderer.renderFragment executor text scope)) := by
  rw [renderFragment, Editing.ofExcept_bind]
  refine deeper.bind fun record execute erases => ?_
  rw [Editing.ofExcept_bind]
  exact (erases_recordReading origin first second text).bind fun forest =>
    erases.render forest scope text

private theorem erases_recordEach (deeper : DeeperErases recorder executor) (origin : Text)
    (first second : Tag) (text name : Text) (items : List Value) (scope : Scope) :
    (do
      let execute ← renderer.recordDeeper recorder
      let forest ← renderer.recordReading origin first second text
      let texts ← items.mapM fun item => execute.render forest (scope.bind name item) text
      return texts.flatten : Recording Text).Erases
        (Editing.ofExcept (renderer.renderEach executor text name items scope)) := by
  rw [renderEach, Editing.ofExcept_bind]
  refine deeper.bind fun record execute erases => ?_
  rw [Editing.ofExcept_bind]
  refine (erases_recordReading origin first second text).bind fun forest => ?_
  rw [Editing.ofExcept_bind]
  exact (Recording.erases_mapM items fun item => erases.render forest _ text).bind
    fun texts => Recording.erases_pure _

theorem erases_recordExpansion (renderer : Renderer) (deeper : DeeperErases recorder executor)
    (origin : Text) (scope : Scope) (family : Family) (opener closer : Tag) (body : Forest) :
    (do
      let expansion ← .ofExcept
        (Group.expansion family ⟨family, opener, body, some closer⟩ closer scope)
      let content ← renderer.recordExpansion recorder origin scope expansion
      Recording.replace origin ⟨opener.start, closer.stop⟩ content : Recording Unit).Erases
        (renderer.expandBlock executor family ⟨family, opener, body, some closer⟩ scope) := by
  refine (Recording.erases_ofExcept _).bind fun expansion => ?_
  cases expansion with
  | copy first second =>
      exact (Recording.erases_edit _).bind fun text => Recording.erases_replace _ _ _
  | fragment first second =>
      rw [recordExpansion, bind_assoc]
      refine (Recording.erases_edit _).bind fun text => ?_
      exact (erases_recordFragment deeper origin first second text scope).bind
        fun content => Recording.erases_replace _ _ _
  | each first second name items =>
      rw [recordExpansion, bind_assoc]
      refine (Recording.erases_edit _).bind fun text => ?_
      exact (erases_recordEach deeper origin first second text name items scope).bind
        fun content => Recording.erases_replace _ _ _
  | nothing => exact fun tape => Recording.erases_replace origin _ [] tape

theorem erases_recordWalk (deeper : DeeperErases recorder executor) :
    Recorder.Erases (renderer.recordWalk recorder) (renderer.walk executor) := by
  intro forest scope origin
  induction forest with
  | nil => exact Recording.erases_pure ()
  | tag single rest ih =>
      rw [walk_tag]
      refine Recording.erases_visit_bind _ _ ?_
      refine (Recording.erases_ofExcept _).bind fun content => ?_
      exact (Recording.erases_replace _ _ _).bind fun _ => ih
  | group family opener body closer rest _ restIH =>
      cases closer with
      | none =>
          refine Recording.erases_visit_bind _ _ ?_
          refine deeper.bind fun record execute erases => ?_
          exact (erases body scope origin).bind fun _ => restIH
      | some closing =>
          refine Recording.erases_visit_bind _ _ ?_
          have block :=
            renderer.erases_recordExpansion deeper origin scope family opener closing body
          have whole := block.bind fun _ => restIH
          simp only [bind_assoc] at whole
          exact whole

theorem erases_recordWithin (renderer : Renderer) (levels : Nat) :
    Recorder.Erases (renderer.recordWithin levels) (renderer.executeWithin levels) := by
  induction levels with
  | zero => exact erases_recordWalk trivial
  | succ levels ih => exact erases_recordWalk ih

/-- A recorded rendering has the outcome of the rendering. -/
theorem outcome_recordTemplate (renderer : Renderer) (template : Template) (data : Fields) :
    (renderer.recordTemplate template data).outcome = renderer.renderTemplate template data := by
  have erased := renderer.erases_recordWithin renderer.maxDepth template.forest (.ofFields data)
    template.source ⟨.ofText template.source, .start, []⟩
  rw [recordTemplate, renderTemplate, Executor.render, ← erased]
  cases (renderer.recordWithin renderer.maxDepth template.forest (.ofFields data)
    template.source).run ⟨.ofText template.source, .start, []⟩ <;> rfl

end Renderer

end Stencil

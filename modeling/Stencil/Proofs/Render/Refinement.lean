import Stencil.Proofs.Render.Evaluation

/-!
# Rendering is evaluation

Editing a document and reading its parts again gives the same outcome as evaluating the forest, text
for text and error for error. The induction is on the levels that are left: each part that is cut
out is lower than the forest around it and reads as the part of the forest that stands there.
-/

set_option autoImplicit false

namespace Stencil

/-- The parts of a forest that a renderer reads again are read as what stands there. -/
structure Forest.Rereadable (renderer : Renderer) (source : Text) (forest : Forest) : Prop where
  wellNested : forest.WellNested none
  rereads : ∀ group ∈ forest.exposedGroups, group.family ≠ .verbatim →
    ∀ closer, group.closer = some closer → ∀ part ∈ group.parts closer,
      part.Rereads renderer.delimiters renderer.mode renderer.maxDepth source

namespace Forest.Rereadable

variable {renderer : Renderer} {source : Text} {forest : Forest}

/-- Whatever has been read, leniently or in the mode of the renderer, and fits the renderer, can be
read again in parts. -/
theorem of_parse (separable : renderer.delimiters.Separable) {mode : Mode} {limit : Nat}
    (parsed : Forest.parse renderer.delimiters mode limit source = .ok forest)
    (modes : renderer.mode = .lenient ∨ renderer.mode = mode)
    (bound : forest.height ≤ renderer.maxDepth) : forest.Rereadable renderer source := by
  obtain ⟨nested, -, -⟩ := Forest.of_ofTags (Forest.ofTags_of_parse parsed)
  refine ⟨nested, ?_⟩
  intro group member notVerbatim closer closed part among
  have stands := Group.standsIn_of_mem_parts nested (Forest.allGroups_of_mem_exposedGroups member)
    closed among
  have fits := Nat.le_trans (Nat.le_of_lt stands.height_lt) bound
  cases chosen : renderer.mode with
  | lenient => exact Part.rereads_lenient separable parsed stands fits
  | strict =>
      rw [chosen] at modes
      obtain rfl := modes.resolve_left (by simp)
      exact Part.rereads_strict separable parsed member notVerbatim closed among fits

theorem of_tag {single : Tag} {rest : Forest}
    (rereadable : (Forest.tag single rest).Rereadable renderer source) :
    rest.Rereadable renderer source :=
  ⟨rereadable.wellNested.2.2, rereadable.rereads⟩

theorem of_open {family : Family} {opener : Tag} {body rest : Forest}
    (rereadable : (Forest.group family opener body none rest).Rereadable renderer source) :
    body.Rereadable renderer source ∧ rest = .nil := by
  obtain ⟨-, inside, -, last, -⟩ := rereadable.wellNested
  refine ⟨⟨inside.outside, ?_⟩, last rfl⟩
  intro group member
  apply rereadable.rereads group
  simp [Forest.exposedGroups, member]

theorem of_closed {family : Family} {opener closer : Tag} {body rest : Forest}
    (rereadable : (Forest.group family opener body (some closer) rest).Rereadable renderer source) :
    rest.Rereadable renderer source := by
  obtain ⟨-, -, -, -, after⟩ := rereadable.wellNested
  refine ⟨after, ?_⟩
  intro group member
  apply rereadable.rereads group
  simp [Forest.exposedGroups, member]

end Forest.Rereadable

namespace Renderer

variable {renderer : Renderer} {source : Text}

theorem parseFragment_eq_ok {text : Text} {forest : Forest}
    (parsed : Forest.parse renderer.delimiters renderer.mode renderer.maxDepth text = .ok forest) :
    renderer.parseFragment text = .ok forest :=
  mapError_eq_ok_iff.mpr parsed

/-- With some way to do the next level, the slice of a part is read and rendered as the part
evaluates. -/
def EvaluatesPart (renderer : Renderer) (execute : Executor) (source : Text) (part : Part) : Prop :=
  ∃ moved, renderer.parseFragment (source.slice part.start part.stop) = .ok moved ∧
    ∀ scope, execute.render moved scope (source.slice part.start part.stop) =
      part.forest.evaluate renderer.registry source scope part.start part.stop

theorem EvaluatesPart.renderFragment {execute : Executor} {part : Part}
    (evaluates : renderer.EvaluatesPart execute source part) (scope : Scope) :
    renderer.renderFragment (some execute) (source.slice part.start part.stop) scope =
      part.forest.evaluate renderer.registry source scope part.start part.stop := by
  obtain ⟨moved, parsed, renders⟩ := evaluates
  rw [Renderer.renderFragment, parsed]
  exact renders scope

theorem EvaluatesPart.renderEach {execute : Executor} {part : Part}
    (evaluates : renderer.EvaluatesPart execute source part) (name : Text) (items : List Value)
    (scope : Scope) :
    renderer.renderEach (some execute) (source.slice part.start part.stop) name items scope = do
      let texts ← items.mapM fun item =>
        part.forest.evaluate renderer.registry source (scope.bind name item) part.start part.stop
      return texts.flatten := by
  obtain ⟨moved, parsed, renders⟩ := evaluates
  rw [Renderer.renderEach, parsed]
  simp only [← renders]
  rfl

/-- A block whose parts evaluate stands for the text that it evaluates to. -/
theorem blockText_eq_evaluateBlock {execute : Executor} (group : Group) {closer : Tag}
    (scope : Scope)
    (parts : group.family ≠ .verbatim → ∀ part ∈ group.parts closer,
      renderer.EvaluatesPart execute source part) :
    renderer.blockText (some execute) source group closer scope =
      Forest.evaluateBlock renderer.registry source group closer scope := by
  obtain ⟨family, opener, body, closed⟩ := group
  rw [blockText, Forest.evaluateBlock]
  cases family with
  | verbatim => rfl
  | conditional =>
      have parts := parts (by simp)
      simp only [Group.expansion]
      cases Group.header ⟨.conditional, opener, body, closed⟩ Condition.read with
      | error error => rfl
      | ok condition =>
          simp only [ok_bind]
          cases scope.resolve condition.path with
          | error error => rfl
          | ok found =>
              simp only [ok_bind]
              cases separated : body.else? with
              | none =>
                  have whole := parts ⟨opener.stop, closer.start, body⟩
                    (by simp [Group.parts, separated, Group.bodyPart])
                  by_cases holds : condition.holds found = true
                  · simp only [holds, ↓reduceIte]
                    exact whole.renderFragment scope
                  · simp only [holds]
                    rfl
              | some separator =>
                  have first := parts ⟨opener.stop, separator.start, body.beforeElse⟩
                    (by simp [Group.parts, separated, Group.halves])
                  have second := parts ⟨separator.stop, closer.start, body.afterElse⟩
                    (by simp [Group.parts, separated, Group.halves])
                  by_cases holds : condition.holds found = true
                  · simp only [holds, ↓reduceIte]
                    exact first.renderFragment scope
                  · simp only [holds]
                    exact second.renderFragment scope
  | loop =>
      have whole := parts (by simp) ⟨opener.stop, closer.start, body⟩
        (by simp [Group.parts, Group.bodyPart])
      simp only [Group.expansion]
      cases Group.header ⟨.loop, opener, body, closed⟩ Iteration.read with
      | error error => rfl
      | ok iteration =>
          simp only [ok_bind]
          cases scope.resolve iteration.path with
          | error error => rfl
          | ok found =>
              simp only [ok_bind]
              cases Group.items iteration.path found with
              | error error => rfl
              | ok items => exact whole.renderEach iteration.name items scope

/-- With a number of levels left, editing a document in between gives what has been written, followed
by what the forest evaluates to on the rest of the text. -/
def RefinesWithin (renderer : Renderer) (levels : Nat) : Prop :=
  ∀ (source : Text) (forest : Forest) (scope : Scope) (progress : Progress),
    forest.Rereadable renderer source → progress.Precedes source forest.flatten →
      forest.height ≤ levels →
        ((renderer.executeWithin levels forest scope).after (progress.document source)).map
            Document.text =
          (forest.evaluate renderer.registry source scope progress.reached source.size).map
            (progress.written ++ ·)

theorem RefinesWithin.render {levels : Nat} (refines : renderer.RefinesWithin levels)
    {forest : Forest} (scope : Scope) (rereadable : forest.Rereadable renderer source)
    (order : Tag.InOrder source forest.flatten) (enough : forest.height ≤ levels) :
    (renderer.executeWithin levels).render forest scope source =
      forest.evaluate renderer.registry source scope 0 source.size := by
  have whole := refines source forest scope .start rereadable (Progress.precedes_start order) enough
  rw [Executor.render_eq, ← Progress.document_start, whole]
  simp only [Progress.start]
  cases forest.evaluate renderer.registry source scope 0 source.size <;> rfl

/-- What a part is read as again evaluates on the slice as the part does on the whole text. -/
theorem RefinesWithin.evaluatesPart {levels : Nat} (refines : renderer.RefinesWithin levels)
    (separable : renderer.delimiters.Separable) {part : Part}
    (rereads : part.Rereads renderer.delimiters renderer.mode renderer.maxDepth source)
    (framed : Tag.Framed source part.start part.stop part.forest.flatten)
    (enough : part.forest.height ≤ levels) (within : levels ≤ renderer.maxDepth) :
    renderer.EvaluatesPart (renderer.executeWithin levels) source part := by
  refine ⟨_, parseFragment_eq_ok rereads, ?_⟩
  intro scope
  have lower : (part.forest.moveBack part.start).height ≤ levels := by
    rwa [Forest.height_moveBack]
  rw [refines.render scope
    (.of_parse separable rereads (.inr rfl) (Nat.le_trans lower within))
    (Forest.inOrder_of_parse rereads) lower]
  have onSlice : part.forest.EvaluatesOnSlice renderer.registry source part.start part.stop :=
    Forest.evaluatesOnSlice framed.isCut_start framed.isCut_stop part.forest
  have moved := onSlice scope part.start part.stop framed (Nat.le_refl _) (Nat.le_refl _)
  rw [Nat.sub_self] at moved
  rw [Text.size_slice framed.isCut_start framed.isCut_stop framed.start_le_stop]
  exact moved

/-- A closed block of a forest that can be read again in parts writes what it evaluates to. -/
theorem RefinesWithin.blockText {levels : Nat} (refines : renderer.RefinesWithin levels)
    (separable : renderer.delimiters.Separable) (within : levels ≤ renderer.maxDepth)
    {family : Family} {opener closing : Tag} {body rest : Forest}
    (rereadable : (Forest.group family opener body (some closing) rest).Rereadable renderer source)
    (order : Tag.InOrder source (Forest.group family opener body (some closing) rest).flatten)
    (enough : (Forest.group family opener body (some closing) rest).height ≤ levels + 1)
    (scope : Scope) :
    renderer.blockText (some (renderer.executeWithin levels)) source
        ⟨family, opener, body, some closing⟩ closing scope =
      Forest.evaluateBlock renderer.registry source ⟨family, opener, body, some closing⟩ closing
        scope := by
  apply blockText_eq_evaluateBlock
  intro notVerbatim part among
  have stands := Group.standsIn_of_mem_parts rereadable.wellNested List.mem_cons_self rfl among
  have rereads :=
    rereadable.rereads _ List.mem_cons_self notVerbatim closing rfl part among
  have lower := stands.height_lt
  exact refines.evaluatesPart separable rereads (Part.framed_of_standsIn order stands) (by omega)
    within

theorem refinesWithin (separable : renderer.delimiters.Separable) (levels : Nat)
    (within : levels ≤ renderer.maxDepth) : renderer.RefinesWithin levels := by
  induction levels using Nat.strongRecOn with
  | ind levels deeper =>
      intro source forest scope progress rereadable precedes enough
      induction forest generalizing progress with
      | nil =>
          rw [executeWithin_eq_walk, Forest.evaluate,
            ← Text.dropBytes_eq_slice precedes.isCut_start]
          rfl
      | tag single rest ih =>
          rw [executeWithin_eq_walk, after_walk_tag, ← executeWithin_eq_walk, Forest.evaluate]
          cases single.replacement renderer.registry scope with
          | error error => rfl
          | ok content =>
              have next := ih _ rereadable.of_tag (precedes.write_tag content) enough
              rw [ok_bind, ok_bind, precedes.replace_tag, ok_bind, next]
              simp only [Progress.write, Tag.span]
              cases rest.evaluate renderer.registry source scope single.stop source.size with
              | error error => rfl
              | ok later => simp [Except.map, pure, Except.pure]
      | group family opener body closer rest bodyIH restIH =>
          -- A group takes a level of the limit.
          obtain ⟨levels, rfl⟩ : ∃ fewer, levels = fewer + 1 :=
            Nat.exists_eq_succ_of_ne_zero (by simp only [Forest.height] at enough; omega)
          have refines := deeper levels (by omega) (by omega)
          cases closer with
          | none =>
              obtain ⟨inside, rfl⟩ := rereadable.of_open
              have bodyPrecedes : progress.Precedes source body.flatten :=
                precedes.sublist (by simp [Forest.flatten])
              have inPlace := refines source body scope progress inside bodyPrecedes
                (by simp only [Forest.height] at enough; omega)
              rw [executeWithin_eq_walk, deeperWithin, after_walk_open, Forest.evaluate,
                Forest.append_nil, ← inPlace]
              cases (renderer.executeWithin levels body scope).after
                (progress.document source) with
              | error error => rfl
              | ok document => rfl
          | some closing =>
              have block := refines.blockText separable (by omega) rereadable precedes.inOrder
                enough scope
              have divided : progress.Precedes source
                  (opener :: (body.flatten ++ closing :: rest.flatten)) := precedes
              rw [executeWithin_eq_walk, after_walk_closed, ← executeWithin_eq_walk,
                after_expandBlock divided, deeperWithin, block, Forest.evaluate]
              cases Forest.evaluateBlock renderer.registry source
                ⟨family, opener, body, some closing⟩ closing scope with
              | error error => rfl
              | ok content =>
                  have later : (progress.write source ⟨opener.start, closing.stop⟩ content).Precedes
                      source rest.flatten :=
                    Tag.Framed.split_cons divided |>.2.split.2
                  have next := restIH (progress.write source ⟨opener.start, closing.stop⟩ content)
                    rereadable.of_closed
                    later (by simp only [Forest.height] at enough; omega)
                  rw [ok_bind, Except.map, ok_bind, next]
                  simp only [Progress.write]
                  cases rest.evaluate renderer.registry source scope closing.stop source.size with
                  | error error => rfl
                  | ok later => simp [Except.map, pure, Except.pure]

/-- A template that has been read with the delimiters of a renderer, leniently or in its mode, and is
not too high for it, renders to what its forest evaluates to. -/
theorem renderTemplate_eq (separable : renderer.delimiters.Separable) {mode : Mode} {limit : Nat}
    {template : Template}
    (parsed : Template.parse renderer.delimiters mode limit source = .ok template)
    (modes : renderer.mode = .lenient ∨ renderer.mode = mode)
    (bound : template.forest.height ≤ renderer.maxDepth) (data : Fields) :
    renderer.renderTemplate template data =
      template.forest.evaluate renderer.registry source (.ofFields data) 0 source.size := by
  obtain ⟨forest, read, rfl⟩ := Template.parse_eq_ok_iff.mp parsed
  exact (refinesWithin separable renderer.maxDepth (Nat.le_refl _)).render (.ofFields data)
    (.of_parse separable read modes bound) (Forest.inOrder_of_parse read) bound

/-- Rendering a text that can be read has the outcome of evaluating its forest: the same text or the
same error. -/
theorem render_eq_evaluate (separable : renderer.delimiters.Separable) {template : Template}
    (parsed : renderer.parse source = .ok template) (data : Fields) :
    renderer.render source data =
      template.forest.evaluate renderer.registry source (.ofFields data) 0 source.size := by
  obtain ⟨forest, read, rfl⟩ := Template.parse_eq_ok_iff.mp parsed
  obtain ⟨-, bound, -⟩ := Forest.of_ofTags (Forest.ofTags_of_parse read)
  rw [render, parsed]
  exact renderTemplate_eq separable parsed (.inr rfl) bound data

/-- A loop around a conditional block with two branches, between text of more than one byte. -/
theorem render_eq_evaluate_loop :
    let source : Text :=
      "ä{% for x in xs %}{% if x == < %}é{{ x }}{% else %}-{% endif %}{% endfor %}".toList
    let data : Fields := [("xs".toList, .list [.string "<".toList, .string "b".toList])]
    ∃ template, standard.parse source = .ok template ∧
      standard.render source data =
        template.forest.evaluate standard.registry source (.ofFields data) 0 source.size ∧
      (template.forest.evaluate standard.registry source (.ofFields data) 0 source.size).toOption =
        some "äé&lt;-".toList := by
  intro source data
  have same := render_eq_evaluate Delimiters.separable_standard
    (rfl : standard.parse source = .ok _) data
  have rendered : (standard.render source data).toOption = some "äé&lt;-".toList := by
    decide +kernel
  exact ⟨_, rfl, same, same ▸ rendered⟩

end Renderer

end Stencil

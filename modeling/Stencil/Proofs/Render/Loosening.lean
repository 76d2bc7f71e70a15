import Mathlib.Control.Monad.Basic
import Stencil.Proofs.Forest.Rereading
import Stencil.Proofs.Render.Failures

/-!
# Looser settings

Strictness and the limit on nesting only refuse templates. A renderer that reads leniently, or allows
deeper nesting, gives the same text or fails in the same way wherever the stricter one does not blame
a malformed tag or the nesting.
-/

set_option autoImplicit false

namespace Stencil

/-- Two outcomes are the same unless the first one blames tags. -/
def SameUnlessBlamed {α : Type} (tight loose : Except RenderError α) : Prop :=
  tight = loose ∨ ∃ error, tight = .error error ∧ error.BlamesTags

namespace SameUnlessBlamed

variable {α β : Type}

theorem refl (outcome : Except RenderError α) : SameUnlessBlamed outcome outcome := .inl rfl

theorem bind {tight loose : Except RenderError α} {tightNext looseNext : α → Except RenderError β}
    (first : SameUnlessBlamed tight loose)
    (next : ∀ value, SameUnlessBlamed (tightNext value) (looseNext value)) :
    SameUnlessBlamed (tight >>= tightNext) (loose >>= looseNext) := by
  rcases first with rfl | ⟨error, rfl, blames⟩
  · cases tight with
    | error error => exact .inl rfl
    | ok value => exact next value
  · exact .inr ⟨error, rfl, blames⟩

theorem bind_right (first : Except RenderError α) {tightNext looseNext : α → Except RenderError β}
    (next : ∀ value, SameUnlessBlamed (tightNext value) (looseNext value)) :
    SameUnlessBlamed (first >>= tightNext) (first >>= looseNext) :=
  (refl first).bind next

theorem bind_left {tight loose : Except RenderError α} (first : SameUnlessBlamed tight loose)
    (next : α → Except RenderError β) : SameUnlessBlamed (tight >>= next) (loose >>= next) :=
  first.bind fun value => refl (next value)

theorem map {tight loose : Except RenderError α} (same : SameUnlessBlamed tight loose)
    (function : α → β) : SameUnlessBlamed (tight.map function) (loose.map function) := by
  rcases same with rfl | ⟨error, rfl, blames⟩
  · exact refl _
  · exact .inr ⟨error, rfl, blames⟩

theorem mapM {tight loose : α → Except RenderError β} (items : List α)
    (each : ∀ item, SameUnlessBlamed (tight item) (loose item)) :
    SameUnlessBlamed (items.mapM tight) (items.mapM loose) := by
  induction items with
  | nil => exact refl _
  | cons item items ih =>
      rw [List.mapM_cons, List.mapM_cons]
      exact (each item).bind fun value => ih.bind_left _

theorem ok_and_error {tight loose : Except RenderError α} (same : SameUnlessBlamed tight loose) :
    (∀ value, tight = .ok value → loose = .ok value) ∧
      ∀ error, tight = .error error → ¬error.BlamesTags → loose = .error error := by
  rcases same with rfl | ⟨cause, rfl, blames⟩
  · exact ⟨fun _ same => same, fun _ same _ => same⟩
  · constructor
    · intro value same
      cases same
    · intro error same innocent
      cases same
      exact absurd blames innocent

end SameUnlessBlamed

/-- Of two executors, the second one does what the first one does unless that one blames tags. -/
def Executor.SameUnlessBlamed (tight loose : Executor) : Prop :=
  ∀ forest scope document, Stencil.SameUnlessBlamed ((tight forest scope).after document)
    ((loose forest scope).after document)

theorem Executor.SameUnlessBlamed.render {tight loose : Executor}
    (same : Executor.SameUnlessBlamed tight loose) (forest : Forest) (scope : Scope) (text : Text) :
    Stencil.SameUnlessBlamed (tight.render forest scope text) (loose.render forest scope text) := by
  rw [Executor.render_eq, Executor.render_eq]
  exact (same forest scope (.ofText text)).map Document.text

theorem RenderError.blamesTags_ofTemplateError (error : TemplateError) :
    (ofTemplateError error).BlamesTags := by
  rw [ofTemplateError]
  split <;> trivial

namespace Renderer

/-- The same renderer with another mode and another limit. -/
def withSettings (renderer : Renderer) (mode : Mode) (limit : Nat) : Renderer :=
  { renderer with mode := mode, maxDepth := limit }

section

variable {renderer : Renderer} {mode : Mode} {limit : Nat}
  (modes : mode = .lenient ∨ mode = renderer.mode) (limits : renderer.maxDepth ≤ limit)

/-- What is done one level deeper is the same unless tags are blamed, and the limit is reached in the
first renderer wherever it is reached in the second one. -/
private def DeeperSame (tight loose : Option Executor) : Prop :=
  ∀ execute, tight = some execute →
    ∃ other, loose = some other ∧ Executor.SameUnlessBlamed execute other

private theorem same_deeper?_bind {α : Type} {tight loose : Option Executor}
    (deeper : DeeperSame tight loose) {tightNext looseNext : Executor → Except RenderError α}
    (next : ∀ execute other, Executor.SameUnlessBlamed execute other →
      SameUnlessBlamed (tightNext execute) (looseNext other)) :
    SameUnlessBlamed (renderer.deeper? tight >>= tightNext)
      ((renderer.withSettings mode limit).deeper? loose >>= looseNext) := by
  cases tight with
  | none => exact .inr ⟨_, rfl, trivial⟩
  | some execute =>
      obtain ⟨other, rfl, same⟩ := deeper execute rfl
      exact next execute other same

include modes limits

theorem same_parse (text : Text) :
    SameUnlessBlamed ((renderer.parse text).mapError RenderError.ofTemplateError)
      (((renderer.withSettings mode limit).parse text).mapError RenderError.ofTemplateError) := by
  cases parsed : renderer.parse text with
  | error error => exact .inr ⟨_, rfl, RenderError.blamesTags_ofTemplateError error⟩
  | ok template =>
      obtain ⟨forest, read, rfl⟩ := Template.parse_eq_ok_iff.mp parsed
      have again : (renderer.withSettings mode limit).parse text = .ok ⟨text, forest⟩ :=
        Template.parse_eq_ok_iff.mpr ⟨forest, Forest.parse_mono modes limits read, rfl⟩
      rw [again]
      exact .refl _

theorem same_parseFragment (text : Text) :
    SameUnlessBlamed (renderer.parseFragment text)
      ((renderer.withSettings mode limit).parseFragment text) := by
  rw [parseFragment, parseFragment]
  cases read : Forest.parse renderer.delimiters renderer.mode renderer.maxDepth text with
  | error error => exact .inr ⟨_, rfl, RenderError.blamesTags_ofTemplateError error⟩
  | ok forest =>
      have again : Forest.parse (renderer.withSettings mode limit).delimiters
          (renderer.withSettings mode limit).mode (renderer.withSettings mode limit).maxDepth
          text = .ok forest := Forest.parse_mono modes limits read
      rw [again]
      exact .refl _

variable {tight loose : Option Executor}

private theorem same_renderFragment (deeper : DeeperSame tight loose) (text : Text)
    (scope : Scope) :
    SameUnlessBlamed (renderer.renderFragment tight text scope)
      ((renderer.withSettings mode limit).renderFragment loose text scope) := by
  refine same_deeper?_bind deeper fun execute other same => ?_
  exact (same_parseFragment modes limits text).bind fun forest => same.render forest scope text

private theorem same_renderEach (deeper : DeeperSame tight loose) (text name : Text)
    (items : List Value) (scope : Scope) :
    SameUnlessBlamed (renderer.renderEach tight text name items scope)
      ((renderer.withSettings mode limit).renderEach loose text name items scope) := by
  refine same_deeper?_bind deeper fun execute other same => ?_
  refine (same_parseFragment modes limits text).bind fun forest => ?_
  exact (SameUnlessBlamed.mapM items fun item =>
    same.render forest (scope.bind name item) text).bind_left _

private theorem same_expandBlock (deeper : DeeperSame tight loose) (family : Family)
    (opener closer : Tag) (body : Forest) (scope : Scope) (document : Document) :
    SameUnlessBlamed
      ((renderer.expandBlock tight family ⟨family, opener, body, some closer⟩ scope).after document)
      (((renderer.withSettings mode limit).expandBlock loose family
        ⟨family, opener, body, some closer⟩ scope).after document) := by
  simp only [expandBlock, Editing.after_ofExcept_bind]
  refine .bind_right _ fun expansion => ?_
  cases expansion with
  | copy first second =>
      simp only [Editing.after_between_bind]
      exact .refl _
  | fragment first second =>
      simp only [Editing.after_between_bind, Editing.after_ofExcept_bind]
      refine .bind_right _ fun text => ?_
      exact (same_renderFragment modes limits deeper text scope).bind_left _
  | each first second name items =>
      simp only [Editing.after_between_bind, Editing.after_ofExcept_bind]
      refine .bind_right _ fun text => ?_
      exact (same_renderEach modes limits deeper text name items scope).bind_left _
  | nothing => exact .refl _

private theorem same_walk (deeper : DeeperSame tight loose) :
    Executor.SameUnlessBlamed (renderer.walk tight)
      ((renderer.withSettings mode limit).walk loose) := by
  intro forest scope document
  induction forest generalizing document with
  | nil => exact .refl _
  | tag single rest ih =>
      rw [after_walk_tag, after_walk_tag]
      refine .bind_right _ fun content => ?_
      exact .bind_right _ ih
  | group family opener body closer rest _ restIH =>
      cases closer with
      | none =>
          cases tight with
          | none => exact .inr ⟨_, rfl, trivial⟩
          | some execute =>
              obtain ⟨other, rfl, same⟩ := deeper execute rfl
              rw [after_walk_open, after_walk_open]
              exact (same body scope document).bind restIH
      | some closing =>
          rw [after_walk_closed, after_walk_closed]
          exact (same_expandBlock modes limits deeper family opener closing body scope
            document).bind restIH

private theorem same_executeWithin {levels more : Nat} (enough : levels ≤ more) :
    Executor.SameUnlessBlamed (renderer.executeWithin levels)
      ((renderer.withSettings mode limit).executeWithin more) := by
  -- The first renderer runs out of levels no later than the second one, and then blames the nesting.
  induction levels generalizing more with
  | zero =>
      have nothing (loose : Option Executor) : DeeperSame none loose := by
        intro execute absent
        cases absent
      cases more with
      | zero => exact same_walk modes limits (nothing _)
      | succ more => exact same_walk modes limits (nothing _)
  | succ levels ih =>
      cases more with
      | zero => exact absurd enough (Nat.not_succ_le_zero levels)
      | succ more =>
          refine same_walk modes limits fun execute same => ?_
          cases same
          exact ⟨_, rfl, ih (Nat.le_of_succ_le_succ enough)⟩

/-- With a looser mode and a larger limit a text renders to the same text, and to the same failure
unless that failure blames a malformed tag or the nesting. -/
theorem render_withSettings (source : Text) (data : Fields) :
    (∀ text, renderer.render source data = .ok text →
      (renderer.withSettings mode limit).render source data = .ok text) ∧
      ∀ error, renderer.render source data = .error error → ¬error.BlamesTags →
        (renderer.withSettings mode limit).render source data = .error error := by
  apply SameUnlessBlamed.ok_and_error
  refine (same_parse modes limits source).bind fun template => ?_
  exact (same_executeWithin modes limits limits).render template.forest (.ofFields data)
    template.source

end

/-- A loop that a strict renderer with a single level renders, or fails at for lack of a collection. -/
theorem render_withSettings_loop :
    let strict : Renderer := ⟨.standard, .standard, .strict, 1⟩
    let source : Text := "é{% for x in xs %}{{ x }}{% endfor %}".toList
    let data : Fields := [("xs".toList, .list [.string "<".toList, .string "b".toList])]
    (.lenient = Mode.lenient ∨ .lenient = strict.mode) ∧ strict.maxDepth ≤ 64 ∧
      (strict.withSettings .lenient 64).render source data = .ok "é&lt;b".toList ∧
      (strict.withSettings .lenient 64).render source [] =
        .error (.variableNotFound "xs".toList) := by
  intro strict source data
  have modes : Mode.lenient = .lenient ∨ .lenient = strict.mode := .inl rfl
  have limits : strict.maxDepth ≤ 64 := by decide
  have rendered : strict.render source data = .ok "é&lt;b".toList := by
    decide +kernel
  have failed : strict.render source [] = .error (.variableNotFound "xs".toList) := by
    decide +kernel
  have same := render_withSettings modes limits source data
  have alike := render_withSettings modes limits source []
  exact ⟨modes, limits, same.1 _ rendered, alike.2 _ failed (by simp [RenderError.BlamesTags])⟩

end Renderer

end Stencil

import Mathlib.Control.Monad.Basic
import Stencil.Command.Run
import Stencil.Proofs.Render.Failures
import Stencil.Proofs.Render.Refinement

/-!
# Checked templates

A template that has been read never makes a rendering fail because of its tags: what is read again
was read before, and is not nested deeper. So a file that passes a check is rendered in strict mode
without such failures.
-/

set_option autoImplicit false

namespace Stencil

theorem Renderer.failsByContent_renderTemplate (renderer : Renderer)
    (separable : renderer.delimiters.Separable) {mode : Mode} {limit : Nat} {source : Text}
    {template : Template}
    (parsed : Template.parse renderer.delimiters mode limit source = .ok template)
    (modes : renderer.mode = .lenient ∨ renderer.mode = mode)
    (bound : template.forest.height ≤ renderer.maxDepth) (data : Fields) :
    FailsByContent (renderer.renderTemplate template data) := by
  rw [renderTemplate_eq separable parsed modes bound data]
  exact Forest.failsByContent_evaluate _ _ _ _ _ _

theorem Template.height_le_of_parse {delimiters : Delimiters} {mode : Mode} {limit : Nat}
    {source : Text} {template : Template}
    (parsed : parse delimiters mode limit source = .ok template) :
    template.forest.height ≤ limit := by
  obtain ⟨forest, read, rfl⟩ := parse_eq_ok_iff.mp parsed
  exact (Forest.of_ofTags (Forest.ofTags_of_parse read)).2.1

namespace Command

variable {files : Files} {delimiters : Delimiters} {maxDepth : Nat}

theorem file_of_checkFile {path : Text} {checked : Checked} {report : Option Failure}
    (result : checkFile files delimiters maxDepth path = .ok (checked, report)) :
    checked.file = path ∧ (checked.error? = none → ∃ source template,
      files.read path = .ok source ∧
        Template.parse delimiters .strict maxDepth source = .ok template) := by
  obtain ⟨source, opened, result⟩ := bind_eq_ok_iff.mp result
  have read : files.read path = .ok source := mapError_eq_ok_iff.mp opened
  cases parsed : Template.parse delimiters .strict maxDepth source with
  | error error =>
      rw [parsed] at result
      cases result
      exact ⟨rfl, fun passed => by cases passed⟩
  | ok template =>
      rw [parsed] at result
      cases result
      exact ⟨rfl, fun _ => ⟨source, template, read, parsed⟩⟩

/-- A check lists a file as one without malformed tags. -/
def Passes (files : Files) (delimiters : Delimiters) (options : CheckOptions) (path : Text) :
    Prop :=
  ⟨path, none⟩ ∈ (checkFiles files delimiters options.maxDepth options.files).1

theorem parse_of_mem_checkFiles {paths : List Text} {path : Text}
    (listed : ⟨path, none⟩ ∈ (checkFiles files delimiters maxDepth paths).1) :
    ∃ source template, files.read path = .ok source ∧
      Template.parse delimiters .strict maxDepth source = .ok template := by
  induction paths with
  | nil => cases listed
  | cons first paths ih =>
      simp only [checkFiles] at listed
      cases result : checkFile files delimiters maxDepth first with
      | error failure =>
          rw [result] at listed
          cases listed
      | ok found =>
          obtain ⟨checked, report⟩ := found
          rw [result] at listed
          rcases List.mem_cons.mp listed with rfl | later
          · obtain ⟨rfl, passes⟩ := file_of_checkFile result
            exact passes rfl
          · exact ih later

theorem exists_mem_checkFiles {paths : List Text} {path : Text} (member : path ∈ paths)
    (complete : (checkFiles files delimiters maxDepth paths).2.2 = none) :
    ∃ checked ∈ (checkFiles files delimiters maxDepth paths).1, checked.file = path := by
  induction paths with
  | nil => cases member
  | cons first paths ih =>
      simp only [checkFiles] at complete ⊢
      cases result : checkFile files delimiters maxDepth first with
      | error failure =>
          rw [result] at complete
          cases complete
      | ok found =>
          obtain ⟨checked, report⟩ := found
          rw [result] at complete
          rcases List.mem_cons.mp member with rfl | among
          · exact ⟨checked, List.mem_cons_self, (file_of_checkFile result).1⟩
          · obtain ⟨other, later, file⟩ := ih among complete
            exact ⟨other, List.mem_cons_of_mem _ later, file⟩

/-- A check that ends with success lists every file as one without malformed tags. -/
theorem passes_of_check {colored : Bool} {options : CheckOptions}
    (loaded : loadDelimiters files options.delimiters = .ok delimiters)
    (success : (check colored files options).code = Outcome.success) {path : Text}
    (member : path ∈ options.files) : Passes files delimiters options path := by
  have found (complete : (checkFiles files delimiters options.maxDepth options.files).2.2 = none) :=
    exists_mem_checkFiles member complete
  rw [Passes]
  rcases result : checkFiles files delimiters options.maxDepth options.files with
    ⟨results, reports, failure⟩
  rw [result] at found
  simp only [check, loaded, result] at success
  cases failure with
  | some failure => cases success
  | none =>
      have few := List.length_filter_le (fun checked : Checked => checked.error?.isNone) results
      have all : (results.filter (·.error?.isNone)).length = results.length := by
        by_cases failed : results.length - (results.filter (·.error?.isNone)).length = 0
        · omega
        · simp only [failed, ↓reduceIte] at success
          split at success <;> cases success
      obtain ⟨⟨file, error⟩, among, rfl⟩ := found rfl
      have passed := List.length_filter_eq_length_iff.mp all _ among
      obtain rfl := Option.isNone_iff_eq_none.mp passed
      exact among

/-- The renderer of a render command. -/
def RenderOptions.renderer (options : RenderOptions) (delimiters : Delimiters) : Renderer where
  delimiters := delimiters
  registry := .standard
  mode := if options.strict then .strict else .lenient
  maxDepth := options.maxDepth

/-- What a render command answers when the rendering is done. -/
def RenderOptions.answer (options : RenderOptions) : Except RenderError Text → Outcome
  | .ok text =>
      ⟨Outcome.success,
        if options.json then Record.write 0 [("result".toList, .text text)] ++ ['\n'] else text, []⟩
  | .error error =>
      ⟨Outcome.dataError, [],
        if options.json then Record.write 0 [("error".toList, .text error.message.toList)] ++ ['\n']
        else "Render error: ".toList ++ error.message.toList ++ ['\n']⟩

theorem render_eq_answer {options : RenderOptions} {data : Fields} {source : Text}
    {template : Template} (loaded : loadDelimiters files options.delimiters = .ok delimiters)
    (given : renderData files options = .ok data) (read : files.read options.file = .ok source)
    (parsed : (options.renderer delimiters).parse source = .ok template) :
    render files options =
      options.answer ((options.renderer delimiters).renderTemplate template data) := by
  simp only [RenderOptions.renderer] at parsed ⊢
  simp only [render, loaded, given, readTemplate, read, Except.mapError, ok_bind, parsed, pure,
    Except.pure]
  cases Renderer.renderTemplate _ template data <;> rfl

theorem render_eq_outcome_of_renderData {options : RenderOptions} {failure : Failure}
    (loaded : loadDelimiters files options.delimiters = .ok delimiters)
    (missing : renderData files options = .error failure) :
    render files options = failure.outcome [] := by
  simp only [render, loaded, missing, ok_bind, error_bind]

end Command

/-- Malformed tags and blocks that are nested too deep are found when a template is read, and never
later, by any renderer with the same delimiters that is lenient or of the mode of the reading and
allows the height of the forest. In particular a file that passes a check renders strictly without
such a failure. -/
theorem blames_no_tags {delimiters : Delimiters} (separable : delimiters.Separable) :
    (∀ mode limit source template,
      Template.parse delimiters mode limit source = .ok template →
        ∀ renderer : Renderer, renderer.delimiters = delimiters →
          renderer.mode = .lenient ∨ renderer.mode = mode →
            template.forest.height ≤ renderer.maxDepth → ∀ data error,
              renderer.renderTemplate template data = .error error → ¬error.BlamesTags) ∧
      ∀ files (checked : Command.CheckOptions),
        Command.loadDelimiters files checked.delimiters = .ok delimiters →
          (∀ colored, (Command.check colored files checked).code = Command.Outcome.success →
            ∀ path ∈ checked.files, Command.Passes files delimiters checked path) ∧
          ∀ options : Command.RenderOptions,
            Command.Passes files delimiters checked options.file → options.strict = true →
              options.delimiters = checked.delimiters → options.maxDepth = checked.maxDepth →
                (∃ failure, Command.renderData files options = .error failure ∧
                  Command.render files options = failure.outcome []) ∨
                ∃ source template data, files.read options.file = .ok source ∧
                  (options.renderer delimiters).parse source = .ok template ∧
                    Command.renderData files options = .ok data ∧
                      Command.render files options = options.answer
                        ((options.renderer delimiters).renderTemplate template data) ∧
                        ∀ error, (options.renderer delimiters).renderTemplate template data =
                          .error error → ¬error.BlamesTags := by
  refine ⟨?_, fun files checked loaded =>
    ⟨fun colored success path => Command.passes_of_check loaded success, ?_⟩⟩
  · rintro mode limit source template parsed renderer rfl modes bound data error failed
    exact (renderer.failsByContent_renderTemplate separable parsed modes bound data error
      failed).not_blamesTags
  · intro options passes strict sameDelimiters sameDepth
    obtain ⟨source, template, read, parsed⟩ := Command.parse_of_mem_checkFiles passes
    rw [← sameDelimiters] at loaded
    rw [← sameDepth] at parsed
    have mode : (options.renderer delimiters).mode = .strict := by
      simp [Command.RenderOptions.renderer, strict]
    have strictly : (options.renderer delimiters).parse source = .ok template := by
      rw [Renderer.parse, mode]
      exact parsed
    cases given : Command.renderData files options with
    | error failure =>
        exact .inl ⟨failure, rfl, Command.render_eq_outcome_of_renderData loaded given⟩
    | ok data =>
        refine .inr ⟨source, template, data, read, strictly, rfl,
          Command.render_eq_answer loaded given read strictly, ?_⟩
        intro error failed
        exact ((options.renderer delimiters).failsByContent_renderTemplate separable parsed
          (.inr mode) (Template.height_le_of_parse parsed) data error failed).not_blamesTags

/-- A loop without its collection fails, but not because of its tags, and its file passes a check. -/
theorem blames_no_tags_loop :
    let source : Text := "{% for x in xs %}{% if x %}é{% endif %}{% endfor %}".toList
    let renderer : Renderer := ⟨.standard, .standard, .lenient, 2⟩
    let files : Files := fun path =>
      if path = ['t'] then some (String.ofList source).toUTF8 else none
    let checked : Command.CheckOptions := ⟨[['t']], none, 2, false⟩
    let options : Command.RenderOptions := ⟨['t'], none, [], none, true, 2, false⟩
    (∃ template, Template.parse .standard .strict 7 source = .ok template ∧
      template.forest.height ≤ renderer.maxDepth ∧
        renderer.renderTemplate template [] = .error (.variableNotFound "xs".toList) ∧
          ¬(RenderError.variableNotFound "xs".toList).BlamesTags) ∧
      (Command.check false files checked).code = Command.Outcome.success ∧
        Command.Passes files .standard checked options.file ∧
          ((∃ failure, Command.renderData files options = .error failure ∧
            Command.render files options = failure.outcome []) ∨
            ∃ source template data, files.read options.file = .ok source ∧
              (options.renderer .standard).parse source = .ok template ∧
                Command.renderData files options = .ok data ∧
                  Command.render files options = options.answer
                    ((options.renderer .standard).renderTemplate template data) ∧
                    ∀ error, (options.renderer .standard).renderTemplate template data =
                      .error error → ¬error.BlamesTags) := by
  intro source renderer files checked options
  obtain ⟨reading, checking⟩ := blames_no_tags Delimiters.separable_standard
  obtain ⟨passing, rendering⟩ := checking files checked rfl
  obtain ⟨template, parsed, bound, failed⟩ :
      ∃ template, Template.parse .standard .strict 7 source = .ok template ∧
        template.forest.height ≤ renderer.maxDepth ∧
          renderer.renderTemplate template [] = .error (.variableNotFound "xs".toList) :=
    ⟨_, rfl, by decide +kernel, by decide +kernel⟩
  have success : (Command.check false files checked).code = Command.Outcome.success := by
    decide +kernel
  have passes := passing false success ['t'] List.mem_cons_self
  refine ⟨⟨template, parsed, bound, failed, ?_⟩, success, passes, ?_⟩
  · exact reading .strict 7 source template parsed renderer rfl (.inl rfl) bound [] _ failed
  · exact rendering options passes rfl rfl rfl

end Stencil

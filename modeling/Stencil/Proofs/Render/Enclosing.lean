import Stencil.Proofs.Render.Refinement
import Stencil.Proofs.Tag.Joining

/-!
# A text in a block

Between an opening and a closing block tag a text with closed tags and closed groups keeps its tags and
its forest. The whole is read as one group, one level higher than the text alone, and renders to what
that block stands for.
-/

set_option autoImplicit false

namespace Stencil

/-- A text between two block tags, which are given by their contents. -/
def enclosedText (header body ending : Text) : Text :=
  header.inBlockTag ++ (body ++ ending.inBlockTag)

def enclosedCloser (header body ending : Text) : Tag :=
  ((Tag.ofContent ending).shift body.size).shift header.inBlockTag.size

/-- The group that a text in a block is read as. -/
def enclosedGroup (family : Family) (header body ending : Text) (forest : Forest) : Group :=
  ⟨family, .ofContent header, forest.shift header.inBlockTag.size,
    some (enclosedCloser header body ending)⟩

def enclosedForest (family : Family) (header body ending : Text) (forest : Forest) : Forest :=
  .group family (.ofContent header) (forest.shift header.inBlockTag.size)
    (some (enclosedCloser header body ending)) .nil

section

variable (header body ending : Text)

theorem stop_ofContent : (Tag.ofContent header).stop = header.inBlockTag.size :=
  (Text.size_inBlockTag _).symm

theorem start_enclosedCloser :
    (enclosedCloser header body ending).start = header.inBlockTag.size + body.size := by
  rw [Nat.add_comm, ← Nat.zero_add body.size]
  rfl

theorem stop_enclosedCloser :
    (enclosedCloser header body ending).stop = (enclosedText header body ending).size := by
  rw [enclosedText, Text.size_append, Text.size_append, Text.size_inBlockTag ending, enclosedCloser,
    Tag.stop_shift, Tag.stop_shift, Nat.add_comm, Nat.add_comm _ body.size]
  rfl

theorem slice_enclosedText :
    (enclosedText header body ending).slice (Tag.ofContent header).stop
        (enclosedCloser header body ending).start = body := by
  rw [stop_ofContent, start_enclosedCloser]
  exact Text.slice_append_append _ body _

end

/-! ## Reading a text in a block -/

/-- The content of a block tag that no delimiter reaches into. -/
structure PlainContent (content : Text) : Prop where
  nonempty : content ≠ []
  outside : ∀ character ∈ content, character ∉ Delimiters.standard.characters

section

variable {header body ending : Text} {family : Family} {forest : Forest} {limit : Nat}

/-- The closing tag of a block stands apart from a text before it. -/
theorem cleanSeam_inBlockTag (last : body.getLast? ≠ some '{')
    (terminated : (Pairing.ofText .standard body).unterminated = []) :
    CleanSeam .standard body ending.inBlockTag := by
  refine ⟨uncrossed_of_last ?_, uncrossed_of_head ?_, terminated⟩
  · intro final ends
    have different : final ≠ '{' := by
      rintro rfl
      exact last ends
    exact ⟨fun member => different (List.mem_singleton.mp member),
      fun member => different (List.mem_singleton.mp member)⟩
  · intro head starts
    cases starts
    decide

theorem tags_enclosedText (opens : PlainContent header) (closes : PlainContent ending)
    (last : body.getLast? ≠ some '{')
    (terminated : (Pairing.ofText .standard body).unterminated = []) :
    (Pairing.ofText .standard (enclosedText header body ending)).tags =
      .ofContent header ::
        ((Pairing.ofText .standard body).tags.map (Tag.shift header.inBlockTag.size) ++
          [enclosedCloser header body ending]) := by
  rw [enclosedText, (CleanSeam.inBlockTag opens.nonempty opens.outside _).ofText_append,
    Pairing.ofText_inBlockTag opens.nonempty opens.outside,
    (cleanSeam_inBlockTag last terminated).ofText_append,
    Pairing.ofText_inBlockTag closes.nonempty closes.outside]
  simp only [List.map_append, List.map_cons, List.map_nil, List.singleton_append]
  rfl

/-- What is closed in itself and does not close a block makes a single group inside of it. -/
theorem wellNested_enclosedForest (opens : (Tag.ofContent header).opens? = some family)
    (closes : (Tag.ofContent ending).closes? = some family) (nested : forest.WellNested none)
    (closed : forest.Closed) (stays : ∀ single ∈ forest.singles, single.closes? ≠ some family) :
    (enclosedForest family header body ending forest).WellNested none := by
  refine ⟨opens, Forest.wellNested_shift.mpr (nested.inside stays), ?_, ?_, trivial⟩
  · intro closing same
    cases same
    exact ⟨closes, Forest.closed_shift.mpr closed⟩
  · intro
    rfl

theorem height_enclosedForest :
    (enclosedForest family header body ending forest).height = forest.height + 1 := by
  simp [enclosedForest, Forest.height]

theorem flatten_enclosedForest :
    (enclosedForest family header body ending forest).flatten =
      .ofContent header :: (forest.flatten.map (Tag.shift header.inBlockTag.size) ++
        [enclosedCloser header body ending]) := by
  simp [enclosedForest, Forest.flatten]

/-! ## Evaluating a text in a block -/

theorem evaluate_enclosedForest (registry : Registry) (scope : Scope) :
    (enclosedForest family header body ending forest).evaluate registry
        (enclosedText header body ending) scope 0 (enclosedText header body ending).size =
      Forest.evaluateBlock registry (enclosedText header body ending)
        (enclosedGroup family header body ending forest) (enclosedCloser header body ending)
        scope := by
  have nowhere (position : Nat) :
      (enclosedText header body ending).slice position position = [] := by
    rw [Text.slice, Nat.sub_self, Text.takeBytes_zero]
  have start : (enclosedText header body ending).slice 0 (Tag.ofContent header).start = [] :=
    nowhere 0
  rw [enclosedForest, Forest.evaluate, Forest.evaluate, stop_enclosedCloser, nowhere, start]
  cases result : Forest.evaluateBlock registry (enclosedText header body ending)
      (enclosedGroup family header body ending forest) (enclosedCloser header body ending)
      scope with
  | error error =>
      rw [enclosedGroup] at result
      rw [result]
      rfl
  | ok content =>
      rw [enclosedGroup] at result
      rw [result]
      simp [bind, Except.bind, pure, Except.pure]

end

/-- A text that can be read renders to what its forest evaluates to. -/
theorem Renderer.render_of_parse_eq_evaluate {renderer : Renderer} {source : Text} {forest : Forest}
    (separable : renderer.delimiters.Separable)
    (read : Forest.parse renderer.delimiters renderer.mode renderer.maxDepth source = .ok forest)
    (data : Fields) :
    renderer.render source data =
      forest.evaluate renderer.registry source (.ofFields data) 0 source.size := by
  obtain ⟨-, bound, -⟩ := Forest.of_ofTags (Forest.ofTags_of_parse read)
  rw [render_of_parse read]
  exact renderTemplate_eq separable (Template.parse_eq_ok_iff.mpr ⟨forest, read, rfl⟩) (.inr rfl)
    bound data

end Stencil

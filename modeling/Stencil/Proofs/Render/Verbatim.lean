import Mathlib.Control.Monad.Basic
import Stencil.Proofs.Forest.StackMachine
import Stencil.Proofs.Render.Enclosing

/-!
# Verbatim text

A verbatim block gives back its body to the byte, whatever tags stand in the body, if the groups of the
body are closed in themselves and leave room for one level more. Without that room the block is too
deep, although nothing of its body would be expanded.
-/

set_option autoImplicit false

namespace Stencil

/-! ## Texts that are too deep -/

namespace Forest

variable {limit : Nat} {tags : List Tag} {forest : Forest}

theorem limit_of_ofTags_eq_error {tooDeep : TooDeep} (failed : ofTags limit tags = .error tooDeep) :
    tooDeep.limit = limit := by
  have failed : nestUnder limit tags (StackMachine.families []) = .error tooDeep :=
    map_eq_error_iff.mp failed
  obtain ⟨before, refused, after, -, rfl, -⟩ := StackMachine.run_of_nestUnder_eq_error 0 failed
  rfl

theorem exists_ofTags_eq_error (nested : forest.WellNested none) (high : limit < forest.height) :
    ∃ tooDeep, ofTags limit forest.flatten = .error tooDeep := by
  cases result : ofTags limit forest.flatten with
  | error tooDeep => exact ⟨tooDeep, rfl⟩
  | ok other =>
      obtain ⟨otherNested, bound, same⟩ := of_ofTags result
      obtain rfl := otherNested.eq_of_flatten_eq nested same
      omega

end Forest

/-- A text whose blocks are too deep does not render, in either mode. -/
theorem Renderer.render_of_ofTags_eq_error {renderer : Renderer} {source : Text} {tooDeep : TooDeep}
    (failed : Forest.ofTags renderer.maxDepth (Pairing.ofText renderer.delimiters source).tags =
      .error tooDeep)
    (data : Fields) :
    renderer.render source data = .error (.maxDepthExceeded renderer.maxDepth) := by
  have limit := Forest.limit_of_ofTags_eq_error failed
  have read : renderer.parse source =
      .error (Finding.toError source ⟨tooDeep.position, .tooDeep renderer.maxDepth⟩) := by
    rw [parse, Template.parse, Forest.parse]
    simp only [failed, limit]
    rfl
  rw [render, read]
  rfl

/-! ## A text in a verbatim block -/

def verbatimText (body : Text) : Text := "{% raw %}".toList ++ body ++ "{% endraw %}".toList

def beginVerbatim : Text := " raw ".toList

def endVerbatim : Text := " endraw ".toList

def verbatimForest (body : Text) (forest : Forest) : Forest :=
  enclosedForest .verbatim beginVerbatim body endVerbatim forest

/-- A text that no delimiter reaches out of, and that has no closing tag of a verbatim block. -/
structure Contained (body : Text) : Prop where
  last : body.getLast? ≠ some '{'
  terminated : (Pairing.ofText .standard body).unterminated = []
  stays : ∀ tag ∈ (Pairing.ofText .standard body).tags, tag.closes? ≠ some .verbatim

/-- A text that can stand in a verbatim block, and the forest of its tags. -/
structure VerbatimBody (body : Text) (forest : Forest) : Prop extends Contained body where
  made : ∃ enough, Forest.ofTags enough (Pairing.ofText .standard body).tags = .ok forest
  closed : forest.Closed

theorem verbatimText_eq (body : Text) :
    verbatimText body = enclosedText beginVerbatim body endVerbatim := by
  have first : "{% raw %}".toList = beginVerbatim.inBlockTag := by decide
  have last : "{% endraw %}".toList = endVerbatim.inBlockTag := by decide
  unfold verbatimText enclosedText
  rw [first, last, List.append_assoc]

theorem plainContent_beginVerbatim : PlainContent beginVerbatim :=
  ⟨by decide, forall_mem_of_all (by decide)⟩

theorem plainContent_endVerbatim : PlainContent endVerbatim :=
  ⟨by decide, forall_mem_of_all (by decide)⟩

namespace VerbatimBody

variable {body : Text} {forest : Forest}

/-- A verbatim block is read as a single group around the tags of its body. -/
theorem reads (standing : VerbatimBody body forest) :
    (verbatimForest body forest).WellNested none ∧
      (Pairing.ofText .standard (verbatimText body)).tags = (verbatimForest body forest).flatten := by
  obtain ⟨enough, made⟩ := standing.made
  obtain ⟨nested, -, flat⟩ := Forest.of_ofTags made
  have opens : (Tag.ofContent beginVerbatim).opens? = some .verbatim := by decide
  have closes : (Tag.ofContent endVerbatim).closes? = some .verbatim := by decide
  refine ⟨wellNested_enclosedForest opens closes nested standing.closed ?_, ?_⟩
  · intro single outermost
    exact standing.stays single (flat ▸ Forest.singles_subset_flatten forest outermost)
  · rw [verbatimText_eq, verbatimForest, flatten_enclosedForest, flat]
    exact tags_enclosedText plainContent_beginVerbatim plainContent_endVerbatim standing.last
      standing.terminated

end VerbatimBody

/-- A verbatim block renders to its body, against any data, exactly if the body leaves room for one
more level of nesting. -/
theorem Renderer.render_verbatimText {renderer : Renderer} {body : Text} {forest : Forest}
    (delimiters : renderer.delimiters = .standard) (mode : renderer.mode = .lenient)
    (standing : VerbatimBody body forest) (data : Fields) :
    renderer.render (verbatimText body) data =
      if forest.height < renderer.maxDepth then .ok body
      else .error (.maxDepthExceeded renderer.maxDepth) := by
  obtain ⟨nested, tags⟩ := standing.reads
  have height : (verbatimForest body forest).height = forest.height + 1 := height_enclosedForest
  by_cases room : forest.height < renderer.maxDepth
  · have separable : renderer.delimiters.Separable := delimiters ▸ Delimiters.separable_standard
    have read : Forest.parse renderer.delimiters renderer.mode renderer.maxDepth
        (verbatimText body) = .ok (verbatimForest body forest) := by
      rw [delimiters, mode, Forest.parse_lenient_eq_ok_iff, tags]
      exact Forest.ofTags_eq_ok_iff.mpr ⟨nested, by omega, rfl⟩
    rw [if_pos room, render_of_parse_eq_evaluate separable read, verbatimText_eq, verbatimForest,
      evaluate_enclosedForest, Forest.evaluateBlock]
    exact congrArg Except.ok (slice_enclosedText beginVerbatim body endVerbatim)
  · -- The tags have no other well-nested forest than the one that is too high.
    have high : renderer.maxDepth < (verbatimForest body forest).height := by omega
    obtain ⟨tooDeep, failed⟩ := Forest.exists_ofTags_eq_error nested high
    rw [← tags, ← delimiters] at failed
    rw [if_neg room, render_of_ofTags_eq_error failed]

/-- A body with tags of every kind, and a limit that its one conditional block reaches. -/
theorem Renderer.render_verbatimText_conditional :
    let body : Text := "{{ x }}{% if %}é{% else %}{% endfor %}{% endif %}{% y %}".toList
    let shallow : Renderer := { standard with maxDepth := 1 }
    (∃ forest, VerbatimBody body forest ∧ forest.height = 1) ∧
      standard.render (verbatimText body) [] = .ok body ∧
      shallow.render (verbatimText body) [] = .error (.maxDepthExceeded 1) := by
  intro body shallow
  obtain ⟨forest, made, closed, height⟩ : ∃ forest, Forest.ofTags 1
      (Pairing.ofText .standard body).tags = .ok forest ∧ forest.Closed ∧ forest.height = 1 :=
    ⟨_, rfl, by decide +kernel, rfl⟩
  have contained : Contained body := ⟨by decide, by decide +kernel, by decide +kernel⟩
  have standing : VerbatimBody body forest := ⟨contained, ⟨1, made⟩, closed⟩
  refine ⟨⟨forest, standing, height⟩, ?_, ?_⟩
  · rw [render_verbatimText rfl rfl standing, height]
    rfl
  · rw [render_verbatimText rfl rfl standing, height]
    rfl

/-- A block that is open at the end of the body takes in the closing tag of the verbatim block, and the
blocks of the body count as nested in the verbatim block. -/
theorem Renderer.verbatimText_unprotected :
    let opened : Text := "{% if x %}".toList
    let deep : Text := (List.replicate 64 "{%if%}".toList).flatten ++
      (List.replicate 64 "{%endif%}".toList).flatten
    Contained opened ∧ Contained deep ∧
      standard.render (verbatimText opened) [] = .ok "{% raw %}{% if x %}".toList ∧
      standard.render (verbatimText deep) [] = .error (.maxDepthExceeded 64) := by
  intro opened deep
  have openedContained : Contained opened := ⟨by decide, by decide +kernel, by decide +kernel⟩
  have deepContained : Contained deep := ⟨by decide +kernel, by decide +kernel, by decide +kernel⟩
  exact ⟨openedContained, deepContained, by decide +kernel, by decide +kernel⟩

end Stencil

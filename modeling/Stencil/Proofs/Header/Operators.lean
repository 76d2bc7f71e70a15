import Stencil.Proofs.Header.Comparisons
import Stencil.Proofs.Render.Interruption

/-!
# Operators that are not known

In the place of an operator there may be any run of equals signs and exclamation marks. A run that begins
with no operator is refused, and with it the block that it heads. A run that goes on after an operator is
not refused: the operator is taken, and the rest of the run begins the literal.
-/

set_option autoImplicit false

namespace Stencil

/-- A run of marks that begins with no operator is not completed to one by what follows it. -/
theorem Operator.read?_marks_append {marks rest : Text}
    (unknown : ∀ operator, ¬Operator.text operator <+: marks) (ends : Header.Stops isMark rest) :
    read? (marks ++ rest) = none := by
  rw [Option.eq_none_iff_forall_ne_some]
  rintro ⟨operator, after⟩ found
  have whole := read?_eq_some_iff.mp found
  have starts : operator.text <+: marks ++ rest := ⟨after, whole.symm⟩
  rcases List.prefix_or_prefix_of_prefix starts (List.prefix_append marks rest) with within | beyond
  · exact unknown operator within
  · obtain ⟨missing, same⟩ := beyond
    cases missing with
    | nil =>
        rw [List.append_nil] at same
        exact unknown operator (same ▸ List.prefix_rfl)
    | cons mark missing =>
        -- The rest of the text would have to go on with a mark.
        rw [← same, List.append_assoc] at whole
        have notMark := ends mark (by rw [List.append_cancel_left whole]; rfl)
        have isMark := operator.isMark_of_mem_text mark (by simp [← same])
        rw [notMark] at isMark
        cases isMark

/-- A conditional block whose header cannot be read cannot be expanded. -/
theorem Engine.run_execute_of_header_error {engine : Engine} {opener closer : Tag} {body rest : Forest}
    {cause : HeaderError} (fails : Condition.read opener.content = .error cause) (scope : Scope)
    (document : Document) :
    (engine.execute (.group .conditional opener body (some closer) rest) scope).run document =
      .error (.invalidTag opener.full (.header cause)) document := by
  apply run_execute_closed_error
  have refused : Group.expansion .conditional ⟨.conditional, opener, body, some closer⟩ closer scope =
      .error (.invalidTag opener.full (.header cause)) := by
    rw [Group.expansion, Group.header, fails]
    rfl
  rw [expandBlock, Renderer.expandBlock]
  simp only [refused]
  rfl

namespace Condition

/-- The header of a conditional block with marks in the place of the operator. -/
structure Marked where
  opening : Opening
  gap : Text
  marks : Text
  rest : Text

namespace Marked

def text (header : Marked) : Text :=
  header.opening.text ++ (header.gap ++ (header.marks ++ header.rest))

/-- There is a mark, and what follows the marks does not go on with one. -/
structure WellFormed (header : Marked) : Prop where
  opening : header.opening.WellFormed
  gap : Header.IsGap header.gap
  marks_ne_nil : header.marks ≠ []
  marks : ∀ mark ∈ header.marks, Operator.isMark mark = true
  rest : Header.Stops Operator.isMark header.rest

variable {header : Marked}

theorem WellFormed.read_text (wellFormed : header.WellFormed) :
    read header.text =
      readComparison header.opening.path (header.gap ++ (header.marks ++ header.rest)) :=
  wellFormed.opening.read_append
    (Operator.stops_gap_marks wellFormed.marks_ne_nil wellFormed.marks wellFormed.gap _)

theorem WellFormed.read_of_operator (wellFormed : header.WellFormed) {operator : Operator}
    {further : Text} (known : header.marks = operator.text ++ further) :
    read header.text =
      .ok ⟨header.opening.path, some ⟨operator, unquote (further ++ header.rest).trim⟩⟩ := by
  have found := Operator.read?_dropWhile wellFormed.gap operator (further ++ header.rest)
  rw [wellFormed.read_text, known, List.append_assoc, readComparison]
  simp only [found]

theorem WellFormed.read_of_no_operator (wellFormed : header.WellFormed)
    (unknown : ∀ operator, ¬Operator.text operator <+: header.marks) :
    read header.text = .error (.afterCondition (header.marks ++ header.rest).trim) := by
  have absent : Operator.read?
      ((header.gap ++ (header.marks ++ header.rest)).dropWhile Char.isWhitespace) = none := by
    rw [Header.dropWhile_append_of_stops wellFormed.gap
      (Operator.stops_marks wellFormed.marks_ne_nil wellFormed.marks header.rest)]
    exact Operator.read?_marks_append unknown wellFormed.rest
  have blankGap : Text.Blank header.gap :=
    fun character member => isBlank_of_isWhitespace (wellFormed.gap character member)
  have visible : (header.marks ++ header.rest).trim ≠ [] := by
    intro empty
    obtain ⟨mark, further, shape⟩ := List.exists_cons_of_ne_nil wellFormed.marks_ne_nil
    have isMark := wellFormed.marks mark (shape ▸ List.mem_cons_self)
    exact (Text.blank_of_trim_eq_nil empty).not_mem (Operator.isBlank_of_isMark isMark)
      (by simp [shape])
  rw [wellFormed.read_text, readComparison]
  simp only [absent, Text.trim_blank_append blankGap, if_neg visible]

/-- A header with marks that begin with no operator is refused, and so is every closed conditional block
with such a header. If the marks begin with an operator, the header is read, and what is left of the marks
belongs to the literal. -/
theorem read_marks (wellFormed : header.WellFormed) :
    ((∀ operator, ¬Operator.text operator <+: header.marks) →
        read header.text = .error (.afterCondition (header.marks ++ header.rest).trim) ∧
          ∀ (engine : Engine) (opener closer : Tag) (body rest : Forest) (scope : Scope)
            (document : Document), opener.content = header.text →
            (engine.execute (.group .conditional opener body (some closer) rest) scope).run document =
              .error (.invalidTag opener.full
                (.header (.afterCondition (header.marks ++ header.rest).trim))) document) ∧
      ∀ operator further, header.marks = Operator.text operator ++ further →
        read header.text =
          .ok ⟨header.opening.path, some ⟨operator, unquote (further ++ header.rest).trim⟩⟩ := by
  refine ⟨fun unknown => ?_, fun operator further known => wellFormed.read_of_operator known⟩
  have refused := wellFormed.read_of_no_operator unknown
  refine ⟨refused, fun engine opener closer body rest scope document content => ?_⟩
  exact Engine.run_execute_of_header_error (by rw [content, refused]) scope document

private theorem wellFormed_ifA : Opening.WellFormed ⟨[], " ".toList, "a".toList⟩ where
  beforeKeyword := forall_mem_of_all (by decide)
  afterKeyword := ⟨by decide, forall_mem_of_all (by decide)⟩
  path_ne_nil := by decide
  path := forall_mem_of_all (by decide +kernel)

/-- An equals sign before an operator. -/
theorem read_marks_misplaced :
    let header : Marked := ⟨⟨[], " ".toList, "a".toList⟩, "\t".toList, "=!=".toList, " 'b' ".toList⟩
    header.text = "if a\t=!= 'b' ".toList ∧ header.WellFormed ∧
      (∀ operator, ¬Operator.text operator <+: header.marks) ∧
        read header.text = .error (.afterCondition "=!= 'b'".toList) := by
  intro header
  have wellFormed : header.WellFormed := by
    refine ⟨wellFormed_ifA, ?_, ?_, ?_, ?_⟩
    · exact forall_mem_of_all (by decide)
    · decide
    · exact forall_mem_of_all (by decide)
    · exact Header.stops_of_all (forall_mem_of_all (by decide))
  have unknown : ∀ operator, ¬Operator.text operator <+: header.marks := by
    intro operator
    cases operator <;> decide
  exact ⟨rfl, wellFormed, unknown, ((read_marks wellFormed).1 unknown).1⟩

/-- Three equals signs are no operator, and yet they are read as one with a literal. -/
theorem read_marks_goes_on :
    let header : Marked := ⟨⟨[], " ".toList, "a".toList⟩, " ".toList, "===".toList, "b".toList⟩
    header.text = "if a ===b".toList ∧ header.WellFormed ∧
      (∀ operator, header.marks ≠ Operator.text operator) ∧
        read header.text = .ok ⟨"a".toList, some ⟨.equals, "=b".toList⟩⟩ ∧
          Renderer.standard.render "{% if a ===b %}yes{% endif %}".toList
            [("a".toList, .string "=b".toList)] = .ok "yes".toList := by
  intro header
  have wellFormed : header.WellFormed := by
    refine ⟨wellFormed_ifA, ?_, ?_, ?_, ?_⟩
    · exact forall_mem_of_all (by decide)
    · decide
    · exact forall_mem_of_all (by decide)
    · exact Header.stops_of_all (forall_mem_of_all (by decide))
  refine ⟨rfl, wellFormed, ?_, rfl, by decide +kernel⟩
  intro operator
  cases operator <;> decide

end Marked

end Condition

end Stencil

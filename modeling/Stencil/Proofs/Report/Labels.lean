import Stencil.Proofs.Forest.Reports
import Stencil.Proofs.Tag.Division
import Stencil.Proofs.Text.Searching
import Stencil.Report.Diagnostic

/-!
# Labels under reported tags

The label of a diagnostic starts where the reported tag starts, since the position is found again from its
line and column. It ends where a search for the closing delimiter ends that starts with the opening one.
That is the end of the tag unless a closing delimiter lies earlier in it: one that shares characters with
the opening delimiter, or one that was passed over in favour of a closing delimiter of variable tags.
-/

set_option autoImplicit false

namespace Stencil

theorem Pairing.exists_around_of_mem_tags {delimiters : Delimiters} {text : Text} {tag : Tag}
    (member : tag ∈ (ofText delimiters text).tags) :
    ∃ left right, text = left ++ (tag.full ++ right) ∧ left.size = tag.start ∧
      tag.start + tag.full.size = tag.stop := by
  have lies := (inOrder_ofText delimiters text).liesIn tag member
  obtain ⟨left, middle, right, whole, start, stop⟩ :=
    lies.isCut_start.exists_parts lies.isCut_stop lies.start_le_stop
  have full : tag.full = middle := by
    rw [(full_of_mem_tags member).1, ← start, ← stop, whole, Text.slice_append_append]
  subst full
  exact ⟨left, right, whole, start, start ▸ stop⟩

theorem Pairing.full_of_isBlock {delimiters : Delimiters} {text : Text} {tag : Tag}
    (member : tag ∈ (ofText delimiters text).tags) (isBlock : tag.isBlock = true) :
    tag.full = (delimiters.blockOpen ++ tag.content) ++ delimiters.blockClose := by
  rw [(full_of_mem_tags member).2, of_decide_eq_true isBlock, List.append_assoc]
  rfl

namespace Diagnostic

variable {source closer full before after : Text} {offset : Nat}

/-! ## The width of a tag -/

theorem isCut_add_tagWidth (cut : source.IsCut offset) (closer : Text) :
    source.IsCut (offset + tagWidth source offset closer) := by
  obtain ⟨left, rest, rfl, rfl⟩ := cut
  obtain ⟨further, whole⟩ : rest.takeWhile (· != '\n') <+: rest := List.takeWhile_prefix _
  simp only [tagWidth, Text.dropBytes_size_append]
  generalize rest.takeWhile (· != '\n') = line at whole
  subst whole
  split
  · next before after found =>
      obtain rfl := Text.append_eq_of_breakOn? found
      exact ⟨left ++ (before ++ closer), after ++ further, by simp, by simp⟩
  · exact ⟨left ++ line, further, by simp, by simp⟩

/-- Nothing is counted only where a line feed comes next. -/
theorem exists_newline_of_tagWidth_eq_zero (cut : source.IsCut offset) (inside : offset < source.size)
    (nonempty : closer ≠ []) (empty : tagWidth source offset closer = 0) :
    ∃ left rest, source = left ++ ('\n' :: rest) ∧ left.size = offset := by
  obtain ⟨left, rest, rfl, rfl⟩ := cut
  simp only [tagWidth, Text.dropBytes_size_append] at empty
  split at empty
  · have none : closer.size = 0 := by omega
    exact absurd (Text.size_eq_zero_iff.mp none) nonempty
  · cases rest with
    | nil => simp at inside
    | cons head rest =>
        by_cases ends : head = '\n'
        · exact ⟨left, rest, by rw [ends], rfl⟩
        · simp [ends] at empty

theorem isCut_add_max_tagWidth (cut : source.IsCut offset) (inside : offset < source.size)
    (nonempty : closer ≠ []) : source.IsCut (offset + max (tagWidth source offset closer) 1) := by
  by_cases empty : tagWidth source offset closer = 0
  · obtain ⟨left, rest, rfl, rfl⟩ :=
      exists_newline_of_tagWidth_eq_zero cut inside nonempty empty
    rw [empty]
    exact ⟨left ++ ['\n'], rest, by simp, by rw [Text.size_append]; rfl⟩
  · rw [Nat.max_eq_left (Nat.pos_of_ne_zero empty)]
    exact isCut_add_tagWidth cut closer

/-- On one line, the width of a tag goes up to the first closing delimiter in it. -/
theorem tagWidth_of_breakOn? (oneLine : '\n' ∉ full)
    (found : Text.breakOn? closer full = some (before, after)) (left right : Text) :
    tagWidth (left ++ (full ++ right)) left.size closer = Text.size (before ++ closer) := by
  simp only [tagWidth, Text.dropBytes_size_append, Text.takeWhile_append_of_notMem oneLine,
    Text.breakOn?_append found, Text.size_append]

/-! ## The label of an error -/

variable {delimiters : Delimiters} {limit : Nat} {text : Text}

theorem offset_ofError (source blockClose : Text) (error : TemplateError) :
    (ofError source blockClose error).offset = error.place.toPosition source := rfl

theorem length_ofError_of_unterminated (source blockClose lexeme : Text) (place : Place) :
    (ofError source blockClose ⟨place, .unterminated lexeme⟩).length = max lexeme.size 1 := rfl

theorem length_ofError_of_block (source blockClose : Text) {error : TemplateError}
    (block : ∀ lexeme, error.fault ≠ .unterminated lexeme) :
    (ofError source blockClose error).length =
      max (tagWidth source (error.place.toPosition source) blockClose) 1 := by
  obtain ⟨place, fault⟩ := error
  cases fault with
  | unterminated lexeme => exact absurd rfl (block lexeme)
  | unclosed family => rfl
  | unexpected keyword => rfl
  | unknown keyword => rfl
  | tooDeep limit => rfl

theorem offset_ofError_toError {position : Nat} (cut : text.IsCut position)
    (inside : position < text.size) (fault : Fault) (blockClose : Text) :
    (ofError text blockClose (Finding.toError text ⟨position, fault⟩)).offset = position := by
  rw [offset_ofError]
  exact Place.toPosition_ofPosition cut inside

section

variable {tag : Tag} {fault : Fault}

theorem offset_of_tag (member : tag ∈ (Pairing.ofText delimiters text).tags) (fault : Fault) :
    (ofError text delimiters.blockClose (Finding.toError text ⟨tag.start, fault⟩)).offset =
      tag.start := by
  obtain ⟨left, right, whole, start, stop⟩ := Pairing.exists_around_of_mem_tags member
  have wide := Pairing.start_lt_stop_of_mem member
  have inside : tag.start < text.size := by
    rw [whole, Text.size_append, Text.size_append]
    omega
  exact offset_ofError_toError ⟨left, _, whole, start⟩ inside fault delimiters.blockClose

/-- Under a block tag on one line, the label goes up to the first closing delimiter in the tag. -/
theorem length_of_tag (member : tag ∈ (Pairing.ofText delimiters text).tags)
    (isBlock : tag.isBlock = true) (block : ∀ lexeme, fault ≠ .unterminated lexeme)
    (oneLine : '\n' ∉ tag.full) :
    ∃ before after, tag.full = before ++ (delimiters.blockClose ++ after) ∧
      Text.IsFirst delimiters.blockClose before ∧
        (ofError text delimiters.blockClose (Finding.toError text ⟨tag.start, fault⟩)).length =
          Text.size (before ++ delimiters.blockClose) := by
  cases found : Text.breakOn? delimiters.blockClose tag.full with
  | none =>
      have ends : delimiters.blockClose <:+: tag.full :=
        ⟨_, [], by rw [Pairing.full_of_isBlock member isBlock, List.append_nil]⟩
      exact absurd ends (Text.not_isInfix_of_breakOn? found)
  | some parts =>
      obtain ⟨before, after⟩ := parts
      obtain ⟨divided, first⟩ := Text.breakOn?_eq_some_iff.mp found
      refine ⟨before, after, divided, first, ?_⟩
      obtain ⟨left, right, whole, start, -⟩ := Pairing.exists_around_of_mem_tags member
      have width : tagWidth text tag.start delimiters.blockClose =
          Text.size (before ++ delimiters.blockClose) := by
        rw [whole, ← start]
        exact tagWidth_of_breakOn? oneLine found left right
      have nonempty : before ++ delimiters.blockClose ≠ [] := by
        simp [delimiters.blockClose_ne_nil]
      have positive : Text.size (before ++ delimiters.blockClose) ≠ 0 :=
        fun zero => nonempty (Text.size_eq_zero_iff.mp zero)
      rw [length_ofError_of_block _ _ block, ← offset_ofError, offset_of_tag member, width,
        Nat.max_eq_left (Nat.pos_of_ne_zero positive)]

end

/-- A position before the end of a text is found again from its line and column. So the label of a text
that strict reading refuses starts with the opening delimiter of the reported tag, and it ends in the
text, not inside of a character. -/
theorem points_at_reported :
    (∀ (text : Text) (position : Nat), text.IsCut position → position < text.size →
        (Place.ofPosition text position).toPosition text = position) ∧
      ∀ (delimiters : Delimiters) (limit : Nat) (text : Text) (error : TemplateError),
        Forest.parse delimiters .strict limit text = .error error →
        ∃ opening ∈ (Scan.ofText delimiters text).opens,
          Forest.Reports delimiters limit text ⟨opening.position, error.fault⟩ ∧
            let diagnostic := ofError text delimiters.blockClose error
            diagnostic.offset = opening.position ∧ 1 ≤ diagnostic.length ∧
              text.IsCut (diagnostic.offset + diagnostic.length) := by
  refine ⟨fun text position cut inside => Place.toPosition_ofPosition cut inside, ?_⟩
  intro delimiters limit text error strict
  obtain ⟨finding, reports, rfl⟩ := Forest.parse_strict_eq_error_iff_reports.mp strict
  cases reports.standsIn with
  | @opening opening left =>
      rw [Pairing.ofText_eq_pairPlainly] at left
      have opens := Pairing.mem_unterminated_pairPlainly left
      obtain ⟨cut, stopCut⟩ := Occurrence.isCut_of_mem opens
      have offset := offset_ofError_toError cut (Pairing.position_lt_size opens)
        (.unterminated opening.lexeme) delimiters.blockClose
      have wide := Occurrence.position_lt_stop (delimiters.lexeme_ne_nil opens)
      refine ⟨opening, opens, reports, offset, ?_⟩
      rw [offset, Finding.toError, length_ofError_of_unterminated]
      rw [Occurrence.stop] at wide stopCut
      rw [Nat.max_eq_left (by omega)]
      exact ⟨by omega, stopCut⟩
  | @block tag fault member _ block =>
      obtain ⟨opening, opens, closing, -, -, -, -, same⟩ := Pairing.exists_between_of_mem_tags member
      have start : tag.start = opening.position := congrArg Tag.start same
      have offset := offset_of_tag member fault
      rw [start] at reports offset ⊢
      refine ⟨opening, opens, reports, offset, ?_⟩
      rw [length_ofError_of_block _ _ block, ← offset_ofError, offset]
      exact ⟨Nat.le_max_right _ _, isCut_add_max_tagWidth (Occurrence.isCut_of_mem opens).1
        (Pairing.position_lt_size opens) delimiters.blockClose_ne_nil⟩

/-- An unclosed block on the second line, after a character of two bytes. -/
theorem points_at_reported_unclosed :
    let text : Text := "é\n ä{% if x %}\n".toList
    let error : TemplateError := ⟨⟨2, 3⟩, .unclosed .conditional⟩
    (text.IsCut 6 ∧ 6 < text.size ∧ (Place.ofPosition text 6).toPosition text = 6) ∧
      Forest.parse .standard .strict 1 text = .error error ∧
        ∃ opening ∈ (Scan.ofText .standard text).opens,
          Forest.Reports .standard 1 text ⟨opening.position, error.fault⟩ ∧
            (ofError text Delimiters.standard.blockClose error).offset = opening.position ∧
              1 ≤ (ofError text Delimiters.standard.blockClose error).length := by
  intro text error
  have cut : text.IsCut 6 := ⟨"é\n ä".toList, "{% if x %}\n".toList, rfl, rfl⟩
  have inside : 6 < text.size := by decide
  have strict : Forest.parse .standard .strict 1 text = .error error := by decide +kernel
  obtain ⟨places, labels⟩ := points_at_reported
  obtain ⟨opening, opens, reports, offset, positive, -⟩ := labels .standard 1 text error strict
  exact ⟨⟨cut, inside, places text 6 cut inside⟩, strict, opening, opens, reports, offset, positive⟩

/-- The label of a text with a malformed block tag starts with that tag. If the tag lies on one line, the
label goes up to the first closing delimiter in it. That is all of the tag exactly if no closing delimiter
ends before the one that the tag ends with. -/
theorem covers_reported {error : TemplateError}
    (strict : Forest.parse delimiters .strict limit text = .error error)
    (block : ∀ lexeme, error.fault ≠ .unterminated lexeme) :
    ∃ tag ∈ (Pairing.ofText delimiters text).tags, tag.isBlock = true ∧
      Forest.Reports delimiters limit text ⟨tag.start, error.fault⟩ ∧
        ('\n' ∉ tag.full →
          let diagnostic := ofError text delimiters.blockClose error
          diagnostic.offset = tag.start ∧
            (∃ before after, tag.full = before ++ (delimiters.blockClose ++ after) ∧
              Text.IsFirst delimiters.blockClose before ∧
                diagnostic.length = Text.size (before ++ delimiters.blockClose)) ∧
              diagnostic.offset + diagnostic.length ≤ tag.stop ∧
                (diagnostic.offset + diagnostic.length = tag.stop ↔
                  Text.IsFirst delimiters.blockClose (delimiters.blockOpen ++ tag.content))) := by
  obtain ⟨finding, reports, rfl⟩ := Forest.parse_strict_eq_error_iff_reports.mp strict
  cases reports.standsIn with
  | opening _ => exact absurd rfl (block _)
  | @block tag fault member isBlock other =>
      refine ⟨tag, member, isBlock, reports, ?_⟩
      intro oneLine
      obtain ⟨before, after, divided, first, length⟩ := length_of_tag member isBlock other oneLine
      obtain ⟨left, right, -, start, stop⟩ := Pairing.exists_around_of_mem_tags member
      have sizes : tag.full.size = Text.size (before ++ delimiters.blockClose) + after.size := by
        rw [divided, ← List.append_assoc, Text.size_append]
      have shape := Pairing.full_of_isBlock member isBlock
      dsimp only
      rw [offset_of_tag member, length]
      refine ⟨rfl, ⟨before, after, divided, first, rfl⟩, by omega, ?_⟩
      rw [← first.after_eq_nil_iff (divided.symm.trans shape), ← Text.size_eq_zero_iff]
      omega

/-- A tag with an unknown keyword, under which the label lies from end to end. -/
theorem covers_reported_unknown :
    let text : Text := "é{% other %} ".toList
    let error : TemplateError := ⟨⟨1, 2⟩, .unknown "other".toList⟩
    Forest.parse .standard .strict 0 text = .error error ∧
      (∀ lexeme, error.fault ≠ .unterminated lexeme) ∧
        ∃ tag ∈ (Pairing.ofText .standard text).tags, '\n' ∉ tag.full ∧
          (ofError text Delimiters.standard.blockClose error).offset = tag.start ∧
            tag.start + (ofError text Delimiters.standard.blockClose error).length = tag.stop := by
  intro text error
  have strict : Forest.parse .standard .strict 0 text = .error error := by decide +kernel
  have block (lexeme : Text) : error.fault ≠ .unterminated lexeme := by simp [error]
  have only : (Pairing.ofText .standard text).tags =
      [⟨.block, 2, 13, "{% other %}".toList, " other ".toList⟩] := by decide +kernel
  obtain ⟨tag, member, -, -, covers⟩ := covers_reported strict block
  have same := member
  rw [only, List.mem_singleton] at same
  have oneLine : '\n' ∉ tag.full := by
    rw [same]
    decide
  have first : Text.IsFirst Delimiters.standard.blockClose
      (Delimiters.standard.blockOpen ++ tag.content) := by
    have found : Text.breakOn? Delimiters.standard.blockClose "{% other %}".toList =
        some (Delimiters.standard.blockOpen ++ " other ".toList, []) := rfl
    rw [same]
    exact Text.isFirst_of_breakOn? found
  obtain ⟨offset, -, -, whole⟩ := covers oneLine
  exact ⟨strict, block, tag, member, oneLine, offset, offset ▸ whole.mpr first⟩

/-- Where the delimiters of a tag share a character, the label ends with the one that the search finds
first, three bytes into a tag of five. -/
theorem label_within_overlapping :
    let text : Text := "\x7b%\x7d%\x7d".toList
    let error : TemplateError := ⟨⟨1, 1⟩, .unknown "\x7d".toList⟩
    Forest.parse .standard .strict 64 text = .error error ∧
      Pairing.ofText .standard text = ⟨[⟨.block, 0, 5, text, "\x7d".toList⟩], []⟩ ∧ '\n' ∉ text ∧
        (ofError text Delimiters.standard.blockClose error).offset = 0 ∧
          (ofError text Delimiters.standard.blockClose error).length = 3 := by
  decide +kernel

end Diagnostic

end Stencil

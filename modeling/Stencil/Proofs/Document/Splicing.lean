import Stencil.Proofs.Render.Progress
import Stencil.Proofs.Text.Splicing

/-!
# Replacements in order

Spans of a text that are replaced from left to right are all found, whatever is written in their
places. The document is the spliced text, and its offset is the difference of the lengths.
-/

set_option autoImplicit false

namespace Stencil

/-- Writes a text in the place of each of some spans in turn. -/
def Editing.replaceEach : List (Span × Text) → Editing Unit
  | [] => pure ()
  | (span, content) :: edits => do
      replace span content
      replaceEach edits

/-- The document of a text in which the texts under some spans have been replaced. -/
def Document.spliced (text : Text) (edits : List (Span × Text)) : Document where
  text := text.splice edits
  offset := (text.splice edits).size - text.size

namespace Progress

def writeEach (progress : Progress) (source : Text) : List (Span × Text) → Progress
  | [] => progress
  | (span, content) :: edits => (progress.write source span content).writeEach source edits

variable {source : Text} {progress : Progress} {edits : List (Span × Text)}

theorem isCut_writeEach (reached : source.IsCut progress.reached)
    (follow : Span.Follow source progress.reached (edits.map Prod.fst)) :
    source.IsCut (progress.writeEach source edits).reached := by
  induction edits generalizing progress with
  | nil => exact reached
  | cons edit edits ih =>
      cases follow with
      | cons _ _ _ isCut_stop later => exact ih isCut_stop later

theorem reached_writeEach_le {bound : Nat} (start : progress.reached ≤ bound)
    (ends : ∀ edit ∈ edits, edit.1.stop ≤ bound) :
    (progress.writeEach source edits).reached ≤ bound := by
  induction edits generalizing progress with
  | nil => exact start
  | cons edit edits ih =>
      exact ih (ends edit List.mem_cons_self) fun later member =>
        ends later (List.mem_cons_of_mem _ member)

/-- What has been written by several replacements, with the rest of the text, is the spliced text. -/
theorem text_writeEach (progress : Progress) (source : Text) (edits : List (Span × Text)) :
    ((progress.writeEach source edits).document source).text =
      progress.written ++ source.spliceFrom progress.reached edits := by
  induction edits generalizing progress with
  | nil => rfl
  | cons edit edits ih =>
      rw [writeEach, ih]
      simp only [write, Text.spliceFrom, List.append_assoc]

/-- The offset is the number of bytes by which the whole text has grown. -/
theorem offset_document (reached : source.IsCut progress.reached) :
    (progress.document source).offset = (progress.document source).text.size - source.size := by
  have rest := Text.size_slice reached source.isCut_size reached.le_size
  have bound := reached.le_size
  rw [← Text.dropBytes_eq_slice reached] at rest
  simp only [document, Text.size_append, rest]
  omega

theorem document_writeEach (reached : source.IsCut (start.writeEach source edits).reached) :
    (start.writeEach source edits).document source = .spliced source edits := by
  have whole := text_writeEach start source edits
  have grown := offset_document reached
  calc (start.writeEach source edits).document source
      = ⟨((start.writeEach source edits).document source).text,
          ((start.writeEach source edits).document source).offset⟩ := rfl
    _ = .spliced source edits := by
          rw [grown, whole]
          rfl

theorem between_document {first second : Span} (reached : source.IsCut progress.reached)
    (before : progress.reached ≤ first.stop) (ordered : first.stop ≤ second.start)
    (isCut_stop : source.IsCut first.stop) (isCut_start : source.IsCut second.start) :
    (progress.document source).between first second = .ok (source.slice first.stop second.start) := by
  simp only [Document.between, Document.locate,
    locate?_document reached isCut_stop isCut_start before ordered]
  rfl

/-- Each replacement leaves the later spans where they are looked for. -/
theorem after_replaceEach (reached : source.IsCut progress.reached)
    (follow : Span.Follow source progress.reached (edits.map Prod.fst)) :
    (Editing.replaceEach edits).after (progress.document source) =
      .ok ((progress.writeEach source edits).document source) := by
  induction edits generalizing progress with
  | nil => rfl
  | cons edit edits ih =>
      obtain ⟨span, content⟩ := edit
      cases follow with
      | cons before ordered isCut_start isCut_stop later =>
          rw [Editing.replaceEach, Editing.after_bind, Editing.after_replace,
            replace_document reached isCut_start isCut_stop before ordered content, ok_bind]
          exact ih isCut_stop later

end Progress

theorem Document.wrapped_of_size_le {document : Document} {text : Text}
    (grown : document.offset = document.text.size - text.size)
    (before : (text.size : Int) ≤ Int64.maxValue.toInt)
    (after : (document.text.size : Int) ≤ Int64.maxValue.toInt) : document.wrapped = document := by
  rw [Int64.toInt_maxValue] at before after
  apply wrapped_eq_self
  · rw [Int64.toInt_minValue]
    omega
  · rw [Int64.toInt_maxValue]
    omega

/-- Replacing spans in their order never fails. After each of the replacements the document holds the
gaps before the spans and the new texts in turn, followed by the rest; the offset is the difference of
the lengths, and fits a word if they do; and what is found between two later spans is what the text
had there. -/
theorem Editing.after_replaceEach_ofText {text : Text} {edits : List (Span × Text)}
    (follow : Span.Follow text 0 (edits.map Prod.fst)) (count : Nat) :
    (replaceEach (edits.take count)).after (.ofText text) =
        .ok (.spliced text (edits.take count)) ∧
      (∀ first second : Span, (∀ edit ∈ edits.take count, edit.1.stop ≤ first.stop) →
        first.stop ≤ second.start → text.IsCut first.stop → text.IsCut second.start →
          (Document.spliced text (edits.take count)).between first second =
            .ok (text.slice first.stop second.start)) ∧
        ((text.size : Int) ≤ Int64.maxValue.toInt →
          ((text.splice (edits.take count)).size : Int) ≤ Int64.maxValue.toInt →
            (Document.spliced text (edits.take count)).wrapped =
              .spliced text (edits.take count)) := by
  have taken : Span.Follow text Progress.start.reached ((edits.take count).map Prod.fst) :=
    List.map_take ▸ follow.take count
  have reached := Progress.isCut_writeEach text.isCut_zero taken
  have edited := Progress.after_replaceEach text.isCut_zero taken
  have spliced := Progress.document_writeEach reached
  rw [Progress.document_start, spliced] at edited
  refine ⟨edited, ?_, fun before after => Document.wrapped_of_size_le rfl before after⟩
  intro first second passed ordered isCut_stop isCut_start
  have before : (Progress.start.writeEach text (edits.take count)).reached ≤ first.stop :=
    Progress.reached_writeEach_le (Nat.zero_le _) passed
  rw [← spliced]
  exact Progress.between_document reached before ordered isCut_stop isCut_start

/-- Two spans that touch, one of them empty, before one that is replaced by nothing. -/
theorem Editing.after_replaceEach_ofText_touching :
    let text : Text := "ä-b".toList
    let edits : List (Span × Text) :=
      [(⟨0, 2⟩, "xyz".toList), (⟨2, 2⟩, "é".toList), (⟨3, 4⟩, [])]
    Span.Follow text 0 (edits.map Prod.fst) ∧
      ∃ document, (replaceEach (edits.take 2)).after (.ofText text) = .ok document ∧
        document.text = "xyzé-b".toList ∧ document.offset = 3 ∧ document.wrapped = document ∧
          document.between ⟨2, 2⟩ ⟨3, 4⟩ = .ok "-".toList := by
  intro text edits
  have first : text.IsCut 2 := ⟨['ä'], ['-', 'b'], rfl, rfl⟩
  have second : text.IsCut 3 := ⟨['ä', '-'], ['b'], rfl, rfl⟩
  have follow : Span.Follow text 0 (edits.map Prod.fst) :=
    .cons (by decide) (by decide) text.isCut_zero first <|
      .cons (by decide) (by decide) first first <|
        .cons (by decide) (by decide) second text.isCut_size .nil
  obtain ⟨edited, found, fits⟩ := after_replaceEach_ofText follow 2
  refine ⟨follow, _, edited, by decide, by decide, fits (by decide) (by decide), ?_⟩
  exact found ⟨2, 2⟩ ⟨3, 4⟩ (by decide) (by decide) first second

end Stencil

import Stencil.Proofs.Text.Cuts
import Stencil.Text.Span

/-!
# Splicing a text

Other texts are written in the place of some spans of a text, and what stands before, between and
behind the spans is copied.
-/

set_option autoImplicit false

namespace Stencil

/-- Spans between cuts of a text, each starting where the one before it stops or further on. They may
be empty and may touch. -/
inductive Span.Follow (text : Text) : (reached : Nat) → List Span → Prop where
  | nil {reached : Nat} : Follow text reached []
  | cons {reached : Nat} {span : Span} {spans : List Span} (before : reached ≤ span.start)
      (ordered : span.start ≤ span.stop) (isCut_start : text.IsCut span.start)
      (isCut_stop : text.IsCut span.stop) (later : Follow text span.stop spans) :
      Follow text reached (span :: spans)

theorem Span.Follow.take {text : Text} {reached : Nat} {spans : List Span}
    (follow : Follow text reached spans) (count : Nat) : Follow text reached (spans.take count) := by
  induction follow generalizing count with
  | nil =>
      rw [List.take_nil]
      exact .nil
  | cons before ordered isCut_start isCut_stop _ ih =>
      cases count with
      | zero => exact .nil
      | succ count => exact .cons before ordered isCut_start isCut_stop (ih count)

namespace Text

/-- What becomes of a text from a position on, with other texts in the place of some spans. -/
def spliceFrom (text : Text) : (position : Nat) → List (Span × Text) → Text
  | position, [] => text.dropBytes position
  | position, (span, content) :: edits =>
      text.slice position span.start ++ (content ++ text.spliceFrom span.stop edits)

/-- A text with other texts in the place of some spans: the gap before each span and its new text in
turn, and then the rest. -/
def splice (text : Text) (edits : List (Span × Text)) : Text := text.spliceFrom 0 edits

/-- Spans that keep the texts under them leave the whole text as it is. -/
theorem spliceFrom_own {text : Text} {position : Nat} {edits : List (Span × Text)}
    (cut : text.IsCut position) (follow : Span.Follow text position (edits.map Prod.fst))
    (own : ∀ edit ∈ edits, edit.2 = text.slice edit.1.start edit.1.stop) :
    text.spliceFrom position edits = text.dropBytes position := by
  induction edits generalizing position with
  | nil => rfl
  | cons edit edits ih =>
      obtain ⟨span, content⟩ := edit
      cases follow with
      | cons before ordered isCut_start isCut_stop later =>
          have kept : content = text.slice span.start span.stop := own _ List.mem_cons_self
          have rest := ih isCut_stop later fun other member => own other (List.mem_cons_of_mem _ member)
          rw [spliceFrom, kept, rest, dropBytes_of_isCut cut isCut_start before,
            dropBytes_of_isCut isCut_start isCut_stop ordered]

end Text

end Stencil

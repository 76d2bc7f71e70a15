import Stencil.Proofs.Render.Atomicity

/-!
# Offsets at the end of a word

The offset of a document is a signed word of 64 bits, and the position of a span is moved by it without
overflow. The offset that a replacement leaves is exact unless it lies below the smallest word. Then it
comes out too large by the number of words. No span up to the largest word leads to that.
-/

set_option autoImplicit false

namespace Stencil

/-- A change of a document from outside of a rendering. -/
inductive Change where
  | replace (span : Span) (content : Text)
  | setOffset (offset : Int64)
  | resetOffset

/-- The document after a change, also after one that has failed. -/
def Change.apply : Change → Document → Document
  | replace span content, document =>
      match (Editing.replace span content).apply document with
      | .ok _ next => next
      | .error _ next => next
  | setOffset offset, document => document.setOffset offset
  | resetOffset, document => document.setOffset 0

namespace Document

/-- The document that some changes make of a text. -/
def changed (text : Text) (changes : List Change) : Document :=
  changes.foldl (fun document change => change.apply document) (ofText text)

def HasWordOffset (document : Document) : Prop :=
  Int64.minValue.toInt ≤ document.offset ∧ document.offset ≤ Int64.maxValue.toInt

variable {document : Document}

theorem hasWordOffset_setOffset (document : Document) (offset : Int64) :
    (document.setOffset offset).HasWordOffset :=
  ⟨Int64.minValue_le_toInt offset, Int64.toInt_le offset⟩

theorem hasWordOffset_wrapped (document : Document) : document.wrapped.HasWordOffset :=
  hasWordOffset_setOffset document _

theorem HasWordOffset.wrapped_eq (word : document.HasWordOffset) : document.wrapped = document :=
  wrapped_eq_self word.1 word.2

theorem hasWordOffset_apply (change : Change) (document : Document) :
    (change.apply document).HasWordOffset := by
  cases change with
  | replace span content =>
      rw [Change.apply, Editing.apply]
      cases (Editing.replace span content).run document with
      | ok _ next => exact hasWordOffset_wrapped next
      | error _ next => exact hasWordOffset_wrapped next
  | setOffset offset => exact hasWordOffset_setOffset document offset
  | resetOffset => exact hasWordOffset_setOffset document 0

theorem hasWordOffset_changed (text : Text) (changes : List Change) :
    (changed text changes).HasWordOffset := by
  have kept (document : Document) (word : document.HasWordOffset) :
      (changes.foldl (fun document change => change.apply document) document).HasWordOffset := by
    induction changes generalizing document with
    | nil => exact word
    | cons change changes ih => exact ih _ (hasWordOffset_apply change document)
  exact kept (ofText text) (hasWordOffset_setOffset (ofText text) 0)

/-- An offset that lies below the smallest word by less than the number of words comes out too large by that
number. -/
theorem offset_wrapped (text : Text) {offset : Int} (lower : -(Int64.size : Int) ≤ offset)
    (upper : offset ≤ Int64.maxValue.toInt) :
    (wrapped ⟨text, offset⟩).offset =
      if offset < Int64.minValue.toInt then offset + Int64.size else offset := by
  have reduced : (wrapped ⟨text, offset⟩).offset = offset.bmod Int64.size := Int64.toInt_ofInt
  rw [Int64.toInt_maxValue] at upper
  rw [reduced, Int64.toInt_minValue]
  simp only [Int.bmod, Int64.size] at lower ⊢
  split <;> split <;> omega

/-- The three parts of the text of a document whose middle lies under a span. -/
structure Holds (document : Document) (span : Span) (located : Located) : Prop where
  text : document.text = located.before ++ (located.inside ++ located.after)
  start : (located.before.size : Int) = span.start + document.offset
  stop : (located.before.size + located.inside.size : Int) = span.stop + document.offset

/-- The offset after a replacement, in integers: the old one and what the text grows by. -/
def exactOffset (document : Document) (inside content : Text) : Int :=
  document.offset + content.size - inside.size

section

variable {span : Span} {located : Located} {content : Text}

theorem locate?_eq_some_iff_holds :
    document.locate? span = some located ↔ document.Holds span located :=
  locate?_eq_some_iff.trans
    ⟨fun ⟨text, start, stop⟩ => ⟨text, start, stop⟩, fun holds => ⟨holds.text, holds.start, holds.stop⟩⟩

theorem replace_eq_error_iff {error : RenderError} :
    document.replace span content = .error error ↔
      (∀ located, ¬document.Holds span located) ∧
        error = .spanOutOfBounds span document.text.size := by
  simp only [← locate?_eq_some_iff_holds, ← Option.eq_none_iff_forall_ne_some]
  rw [replace, locate]
  cases document.locate? span with
  | none => simp [Except.map, eq_comm]
  | some located => simp [Except.map]

theorem Holds.exactOffset_eq (holds : document.Holds span located) :
    document.exactOffset located.inside content =
      located.before.size + content.size - span.stop := by
  have stop := holds.stop
  rw [exactOffset]
  omega

theorem Holds.exactOffset_le (holds : document.Holds span located)
    (fits : ((located.before ++ (content ++ located.after)).size : Int) ≤ Int64.maxValue.toInt) :
    document.exactOffset located.inside content ≤ Int64.maxValue.toInt := by
  rw [Text.size_append, Text.size_append] at fits
  rw [holds.exactOffset_eq]
  omega

theorem Holds.le_exactOffset (holds : document.Holds span located) (word : document.HasWordOffset)
    (fits : (document.text.size : Int) ≤ Int64.maxValue.toInt) :
    -(Int64.size : Int) ≤ document.exactOffset located.inside content := by
  have least := word.1
  rw [Int64.toInt_minValue] at least
  rw [holds.text, Text.size_append, Text.size_append, Int64.toInt_maxValue] at fits
  rw [exactOffset, Int64.size]
  omega

/-- A span has to end past the largest word for the offset to fall below the smallest one. -/
theorem Holds.lt_stop (holds : document.Holds span located)
    (below : document.exactOffset located.inside content < Int64.minValue.toInt) :
    Int64.maxValue.toInt < span.stop := by
  rw [holds.exactOffset_eq, Int64.toInt_minValue] at below
  rw [Int64.toInt_maxValue]
  omega

end

end Document

/-- A replacement either finds no text under the span, fails and leaves the document as it is, or it writes
the new text in the place of the one it finds. The offset then is the old one and what the text has grown
by, added as integers, as long as the sum is not below the smallest word; for that the span must end past
the largest one, and then the offset comes out too large by the number of words. -/
theorem Editing.apply_replace_changed {text : Text} {changes : List Change} {document : Document}
    (made : document = .changed text changes)
    (fits : (document.text.size : Int) ≤ Int64.maxValue.toInt) (span : Span) (content : Text) :
    match (replace span content).apply document with
    | .error error next =>
        (∀ located, ¬document.Holds span located) ∧
          error = .spanOutOfBounds span document.text.size ∧ next = document
    | .ok _ next =>
        ∃ located, document.Holds span located ∧
          next.text = located.before ++ (content ++ located.after) ∧
            ((next.text.size : Int) ≤ Int64.maxValue.toInt →
              (Int64.minValue.toInt ≤ document.exactOffset located.inside content →
                next.offset = document.exactOffset located.inside content) ∧
                (document.exactOffset located.inside content < Int64.minValue.toInt →
                  Int64.maxValue.toInt < span.stop ∧
                    next.offset = document.exactOffset located.inside content + Int64.size)) := by
  have word : document.HasWordOffset := made ▸ Document.hasWordOffset_changed text changes
  rw [Editing.apply, run_replace]
  cases replaced : document.replace span content with
  | error error =>
      obtain ⟨absent, cause⟩ := Document.replace_eq_error_iff.mp replaced
      exact ⟨absent, cause, word.wrapped_eq⟩
  | ok next =>
      obtain ⟨located, found, rfl⟩ := Document.replace_eq_ok_iff.mp replaced
      have holds := Document.locate?_eq_some_iff_holds.mp found
      refine ⟨located, holds, rfl, ?_⟩
      intro nextFits
      have summed : document.offset + (content.size - located.inside.size : Int) =
          document.exactOffset located.inside content := by
        rw [Document.exactOffset]
        omega
      rw [summed, Document.offset_wrapped _ (holds.le_exactOffset word fits)
        (holds.exactOffset_le nextFits)]
      exact ⟨fun within => if_neg (Int.not_lt.mpr within),
        fun below => ⟨holds.lt_stop below, if_pos below⟩⟩

/-- With the smallest word as offset, a span past the largest word lies in the text. What is written there
is one byte longer than what it replaces. -/
theorem Editing.apply_replace_changed_smallest :
    let document := Document.changed "abc".toList [.setOffset Int64.minValue]
    (document.text.size : Int) ≤ Int64.maxValue.toInt ∧
      ∃ next, (replace ⟨9223372036854775809, 9223372036854775811⟩ "xyz".toList).apply document =
          .ok () next ∧
        next.text = "axyz".toList ∧ next.offset = Int64.minValue.toInt + 1 := by
  intro document
  have fits : (document.text.size : Int) ≤ Int64.maxValue.toInt := by decide
  refine ⟨fits, ⟨"axyz".toList, -9223372036854775807⟩, rfl, rfl, ?_⟩
  obtain ⟨located, holds, -, sums⟩ :=
    apply_replace_changed rfl fits ⟨9223372036854775809, 9223372036854775811⟩ "xyz".toList
  have exact : document.exactOffset located.inside "xyz".toList = Int64.minValue.toInt + 1 := by
    have start := holds.start
    have stop := holds.stop
    have smallest : document.offset = Int64.minValue.toInt := by decide
    have written : Text.size "xyz".toList = 3 := by decide
    rw [Document.exactOffset, written]
    dsimp only at start stop
    omega
  rw [exact] at sums
  exact (sums (by decide)).1 (by decide)

/-- Where all of the text is taken out under such a span, a large offset is left in the place of one below the
smallest word. -/
theorem Editing.apply_replace_below_words :
    let document := Document.changed "abc".toList [.setOffset Int64.minValue]
    document.Holds ⟨9223372036854775808, 9223372036854775811⟩ ⟨[], "abc".toList, []⟩ ∧
      ∃ next, (replace ⟨9223372036854775808, 9223372036854775811⟩ []).apply document = .ok () next ∧
        next.text = [] ∧ next.offset = 9223372036854775805 ∧
          next.offset ≠ document.offset + Text.size [] - Text.size "abc".toList :=
  ⟨⟨rfl, by decide, by decide⟩, ⟨[], 9223372036854775805⟩, rfl, rfl, rfl, by decide⟩

end Stencil

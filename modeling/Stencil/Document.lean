import Stencil.Render.Error

/-!
# Documents

A document is a text that is edited from left to right. Spans name positions of the text as it was
at first; what has been edited may have become longer or shorter, and the document keeps the
difference as an offset by which it moves every span.

An edit that fails leaves the document as the last successful step has made it.

The main statement is `Document.locate?_eq_some_iff`: a span is found exactly where the moved ends of
the span cut the text.
-/

set_option autoImplicit false

namespace Stencil

/-- A text under editing. -/
structure Document where
  text : Text
  /-- How far the positions of the first text are moved: by how many bytes the edited part has
  grown. -/
  offset : Int
  deriving DecidableEq, Repr, Inhabited

/-- A change of a document that may fail. -/
abbrev Editing := EStateM RenderError Document

namespace Document

def ofText (text : Text) : Document := ⟨text, 0⟩

/-- The offset as a signed word of 64 bits. -/
def offsetWord (document : Document) : Int64 := Int64.ofInt document.offset

/-- Moves spans by another offset from now on. -/
def setOffset (document : Document) (offset : Int64) : Document :=
  { document with offset := offset.toInt }

/-- The document with its offset reduced to a signed word of 64 bits. -/
def wrapped (document : Document) : Document := document.setOffset document.offsetWord

theorem wrapped_eq_self {document : Document} (lower : Int64.minValue.toInt ≤ document.offset)
    (upper : document.offset ≤ Int64.maxValue.toInt) : document.wrapped = document := by
  simp only [Int64.toInt_minValue, Int64.toInt_maxValue] at lower upper
  simp [wrapped, setOffset, offsetWord, Int64.toInt_ofInt_of_le lower (by omega)]

/-- A text in three parts, the middle one under a span. -/
structure Located where
  before : Text
  inside : Text
  after : Text
  deriving DecidableEq, Repr, Inhabited

/-- Where a position of the first text is now, if it has not moved past the start. -/
def move? (document : Document) (position : Nat) : Option Nat :=
  let moved := (position : Int) + document.offset
  if 0 ≤ moved then some moved.toNat else none

/-- The text now under a span. It must lie in the document and may not end inside of a character.
-/
def locate? (document : Document) (span : Span) : Option Located := do
  let start ← document.move? span.start
  let stop ← document.move? span.stop
  if start ≤ stop then
    let (before, rest) ← Text.splitAt? start document.text
    let (inside, after) ← Text.splitAt? (stop - start) rest
    return ⟨before, inside, after⟩
  else none

/-- A span is found exactly where its moved ends cut the text, the first before the second. -/
theorem locate?_eq_some_iff {document : Document} {span : Span} {located : Located} :
    document.locate? span = some located ↔
      document.text = located.before ++ (located.inside ++ located.after) ∧
        (located.before.size : Int) = span.start + document.offset ∧
          (located.before.size + located.inside.size : Int) = span.stop + document.offset := by
  obtain ⟨before, inside, after⟩ := located
  simp only [locate?, move?, Option.bind_eq_bind, Option.bind_eq_some_iff]
  constructor
  · rintro ⟨start, atStart, stop, atStop, found⟩
    split at atStart <;> cases atStart
    split at atStop <;> cases atStop
    split at found
    · obtain ⟨⟨left, rest⟩, first, ⟨middle, right⟩, second, same⟩ := by
        simpa only [Option.bind_eq_some_iff] using found
      cases same
      obtain ⟨whole, startLength⟩ := Text.append_eq_and_size_eq_of_splitAt? first
      obtain ⟨rfl, insideLength⟩ := Text.append_eq_and_size_eq_of_splitAt? second
      exact ⟨whole, by dsimp only; omega, by dsimp only; omega⟩
    · cases found
  · rintro ⟨whole, atStart, atStop⟩
    refine ⟨before.size, ?_, before.size + inside.size, ?_, ?_⟩
    · rw [← atStart]; simp
    · rw [← atStop]; simp; omega
    · simp [whole]

/-- The text now under a span, or the failure that there is none. -/
def locate (document : Document) (span : Span) : Except RenderError Located :=
  match document.locate? span with
  | some located => .ok located
  | none => .error (.spanOutOfBounds span document.text.size)

/-- The text between the end of one span and the start of another. -/
def between (document : Document) (first second : Span) : Except RenderError Text :=
  (document.locate ⟨first.stop, second.start⟩).map Located.inside

/-- Writes a text in the place of the one under a span. -/
def replace (document : Document) (span : Span) (content : Text) : Except RenderError Document :=
  (document.locate span).map fun located =>
    { text := located.before ++ (content ++ located.after)
      offset := document.offset + (content.size - located.inside.size : Int) }

end Document

namespace Editing

/-- A result that does not change the document. -/
def ofExcept {α : Type} : Except RenderError α → Editing α
  | .ok result => pure result
  | .error error => throw error

@[simp] theorem run_ofExcept_ok {α : Type} (result : α) (document : Document) :
    (ofExcept (.ok result)).run document = .ok result document := rfl

@[simp] theorem run_ofExcept_error {α : Type} (error : RenderError) (document : Document) :
    (ofExcept (α := α) (.error error)).run document = .error error document := rfl

/-- Edits a document from outside of a rendering. The offset that is left is kept in a signed word
of 64 bits; within a rendering it is bounded by the lengths of texts. -/
def apply {α : Type} (editing : Editing α) (document : Document) :
    EStateM.Result RenderError Document α :=
  match editing.run document with
  | .ok result next => .ok result next.wrapped
  | .error error next => .error error next.wrapped

def between (first second : Span) : Editing Text := do
  ofExcept ((← get).between first second)

def replace (span : Span) (content : Text) : Editing Unit := do
  set (← ofExcept ((← get).replace span content))

/-- Looking between two spans leaves the document as it is. -/
theorem run_between (first second : Span) (document : Document) :
    (between first second).run document = (ofExcept (document.between first second)).run document :=
  rfl

/-- A replacement either gives the new document or fails and leaves the old one. -/
theorem run_replace (span : Span) (content : Text) (document : Document) :
    (replace span content).run document =
      match document.replace span content with
      | .ok next => .ok () next
      | .error error => .error error document := by
  have step : (replace span content).run document =
      (ofExcept (document.replace span content) >>= set).run document := rfl
  rw [step]
  cases document.replace span content <;> rfl

end Editing

end Stencil

import Stencil.Proofs.Header.Recognition

/-!
# Written conditions

The header of a conditional block can be written in many ways: with any separators between its parts, and
with the literal of a comparison between quotes or without them. What is read from each of them is the
condition that is written, and every header that is read is one of them, unless its operator goes on with
a further equals sign or exclamation mark.
-/

set_option autoImplicit false

namespace Stencil

namespace Operator

variable {operator : Operator} {text rest : Text}

theorem read?_eq_some_iff : read? text = some (operator, rest) ↔ text = operator.text ++ rest := by
  constructor
  · intro found
    fun_cases read? text with
    | case1 after => cases found; rfl
    | case2 after => cases found; rfl
    | case3 => simp_all [read?]
  · rintro rfl
    cases operator <;> rfl

/-- The characters of which operators are made. -/
def isMark (character : Char) : Bool := character == '=' || character == '!'

theorem isBlank_of_isMark {character : Char} (mark : isMark character = true) :
    isBlank character = false := by
  rw [isMark, Bool.or_eq_true, beq_iff_eq, beq_iff_eq] at mark
  rcases mark with rfl | rfl <;> decide

theorem isPathCharacter_of_isMark {character : Char} (mark : isMark character = true) :
    Header.isPathCharacter character = false := by
  rw [isMark, Bool.or_eq_true, beq_iff_eq, beq_iff_eq] at mark
  rcases mark with rfl | rfl <;> decide

theorem isMark_of_isBlank {character : Char} (blank : isBlank character = true) :
    isMark character = false := by
  cases mark : isMark character with
  | false => rfl
  | true => rw [isBlank_of_isMark mark] at blank; cases blank

theorem text_eq_cons (operator : Operator) :
    ∃ mark, isMark mark = true ∧ operator.text = [mark, '='] := by
  cases operator with
  | equals => exact ⟨'=', by decide, rfl⟩
  | differs => exact ⟨'!', by decide, rfl⟩

theorem isMark_of_mem_text (operator : Operator) : ∀ mark ∈ operator.text, isMark mark = true := by
  cases operator <;> exact forall_mem_of_all (by decide)

section

variable {gap marks : Text} (nonempty : marks ≠ []) (all : ∀ mark ∈ marks, isMark mark = true)

include nonempty all

theorem stops_marks (rest : Text) : Header.Stops Char.isWhitespace (marks ++ rest) := by
  refine Header.stops_append nonempty fun mark member => ?_
  cases white : mark.isWhitespace with
  | false => rfl
  | true =>
      have visible := isBlank_of_isMark (all mark member)
      rw [isBlank_of_isWhitespace white] at visible
      cases visible

theorem stops_gap_marks (isGap : Header.IsGap gap) (rest : Text) :
    Header.Stops Header.isPathCharacter (gap ++ (marks ++ rest)) := by
  have blank : ∀ character ∈ gap, isBlank character = true :=
    fun character member => isBlank_of_isWhitespace (isGap character member)
  exact (Header.stops_blank blank).append
    (Header.stops_append nonempty fun mark member => isPathCharacter_of_isMark (all mark member))

end

theorem text_ne_nil (operator : Operator) : operator.text ≠ [] := by
  cases operator <;> decide

theorem stops_text (operator : Operator) (rest : Text) :
    Header.Stops Char.isWhitespace (operator.text ++ rest) :=
  stops_marks operator.text_ne_nil operator.isMark_of_mem_text rest

theorem read?_dropWhile {gap : Text} (isGap : Header.IsGap gap) (operator : Operator) (rest : Text) :
    read? ((gap ++ (operator.text ++ rest)).dropWhile Char.isWhitespace) = some (operator, rest) := by
  rw [Header.dropWhile_append_of_stops isGap (stops_text operator rest)]
  exact read?_eq_some_iff.mpr rfl

theorem exists_gap_of_read?_dropWhile
    (found : read? (text.dropWhile Char.isWhitespace) = some (operator, rest)) :
    ∃ gap, Header.IsGap gap ∧ text = gap ++ (operator.text ++ rest) := by
  obtain ⟨gap, isGap, whole⟩ := Header.exists_eq_append_dropWhile Char.isWhitespace text
  rw [read?_eq_some_iff.mp found] at whole
  exact ⟨gap, isGap, whole⟩

theorem not_blank_append (gap : Text) (operator : Operator) (rest : Text) :
    ¬Text.Blank (gap ++ (operator.text ++ rest)) := by
  intro blank
  obtain ⟨mark, isMark, shape⟩ := operator.text_eq_cons
  exact blank.not_mem (isBlank_of_isMark isMark) (by simp [shape])

theorem stops_gap_append {gap : Text} (isGap : Header.IsGap gap) (operator : Operator)
    (rest : Text) : Header.Stops Header.isPathCharacter (gap ++ (operator.text ++ rest)) :=
  stops_gap_marks operator.text_ne_nil operator.isMark_of_mem_text isGap rest

end Operator

namespace Condition

/-! ## Literals -/

def IsQuoted (literal : Text) : Prop := ∃ inner, literal = '\'' :: (inner ++ ['\''])

/-- The ways to write a literal after an operator. Without quotes it may not begin with a mark directly
after the operator. -/
inductive WritesLiteral : Text → Text → Prop where
  | quoted {before after : Text} (literal : Text) (blankBefore : before.Blank)
      (blankAfter : after.Blank) :
      WritesLiteral (before ++ ('\'' :: (literal ++ ['\'']) ++ after)) literal
  | plain {before literal after : Text} (blankBefore : before.Blank) (trimmed : literal.Trimmed)
      (unquoted : ¬IsQuoted literal) (blankAfter : after.Blank)
      (apart : before = [] → Header.Stops Operator.isMark literal) :
      WritesLiteral (before ++ (literal ++ after)) literal

theorem unquote_quoted (literal : Text) : unquote ('\'' :: (literal ++ ['\''])) = literal := by
  rw [unquote, if_pos (List.getLast?_concat), List.dropLast_concat]

theorem unquote_of_not_isQuoted {literal : Text} (unquoted : ¬IsQuoted literal) :
    unquote literal = literal := by
  fun_cases unquote literal with
  | case1 rest ends =>
      obtain ⟨inner, rfl⟩ := List.getLast?_eq_some_iff.mp ends
      exact absurd ⟨inner, rfl⟩ unquoted
  | case2 => rfl
  | case3 => rfl

theorem trimmed_quoted (literal : Text) : Text.Trimmed ('\'' :: (literal ++ ['\''])) where
  head starts := by cases starts; decide
  last ends := by
    rw [← List.cons_append, List.getLast?_concat] at ends
    cases ends
    decide

theorem stops_isMark {text : Text} (blank : text.Blank) : Header.Stops Operator.isMark text :=
  Header.stops_of_all fun character member => Operator.isMark_of_isBlank (blank character member)

/-- What is read from a text after an operator is the literal that is written there. -/
theorem writesLiteral_iff {written literal : Text} :
    WritesLiteral written literal ↔
      unquote written.trim = literal ∧ Header.Stops Operator.isMark written := by
  constructor
  · intro writes
    cases writes with
    | quoted literal blankBefore blankAfter =>
        refine ⟨?_, (stops_isMark blankBefore).append fun head starts => ?_⟩
        · rw [Text.trim_append_append blankBefore (trimmed_quoted literal) blankAfter, unquote_quoted]
        · cases starts
          decide
    | @plain before _ after blankBefore trimmed unquoted blankAfter apart =>
        constructor
        · rw [Text.trim_append_append blankBefore trimmed blankAfter, unquote_of_not_isQuoted unquoted]
        · -- Only a literal with nothing before it can go on with a mark.
          by_cases empty : before = []
          · rw [empty, List.nil_append]
            exact (apart empty).append (stops_isMark blankAfter)
          · exact Header.stops_append empty fun character member =>
              Operator.isMark_of_isBlank (blankBefore character member)
  · rintro ⟨rfl, stops⟩
    obtain ⟨before, after, whole, blankBefore, trimmed, blankAfter⟩ := written.exists_eq_append_trim
    by_cases quoted : IsQuoted written.trim
    · obtain ⟨inner, shape⟩ := quoted
      have writes := WritesLiteral.quoted inner blankBefore blankAfter
      rw [shape, unquote_quoted]
      rwa [← shape, ← whole] at writes
    · have apart : before = [] → Header.Stops Operator.isMark written.trim := by
        rintro rfl head starts
        exact stops head (by rw [whole, List.nil_append, List.head?_append, starts]; rfl)
      have writes := WritesLiteral.plain blankBefore trimmed quoted blankAfter apart
      rwa [← whole, ← unquote_of_not_isQuoted quoted] at writes

/-! ## Conditions -/

/-- What follows the path of a condition: nothing but blanks, or an operator with a literal. -/
inductive WritesComparison : Text → Option Comparison → Prop where
  | none {after : Text} (blank : after.Blank) : WritesComparison after none
  | some {gap written literal : Text} (isGap : Header.IsGap gap) (operator : Operator)
      (writes : WritesLiteral written literal) :
      WritesComparison (gap ++ (operator.text ++ written)) (some ⟨operator, literal⟩)

/-- The header of a conditional block up to the end of its path, as it is written. -/
structure Opening where
  beforeKeyword : Text
  afterKeyword : Text
  path : Text

namespace Opening

def text (opening : Opening) : Text :=
  opening.beforeKeyword ++ ("if".toList ++ (opening.afterKeyword ++ opening.path))

structure WellFormed (opening : Opening) : Prop where
  beforeKeyword : Header.IsGap opening.beforeKeyword
  afterKeyword : opening.afterKeyword ≠ [] ∧ Header.IsGap opening.afterKeyword
  path_ne_nil : opening.path ≠ []
  path : ∀ character ∈ opening.path, Header.isPathCharacter character = true

end Opening

/-- A text is a header that says a condition. -/
def Writes (content : Text) (condition : Condition) : Prop :=
  ∃ (opening : Opening) (rest : Text), opening.WellFormed ∧ opening.path = condition.path ∧
    WritesComparison rest condition.comparison ∧ content = opening.text ++ rest

/-- The operator of a header does not go on with a further mark. -/
def OperatorEnds (content : Text) : Prop :=
  ∀ (opening : Opening) (gap : Text) (operator : Operator) (rest : Text), opening.WellFormed →
    Header.IsGap gap → content = opening.text ++ (gap ++ (operator.text ++ rest)) →
      Header.Stops Operator.isMark rest

/-! ## Reading a header up to its path -/

/-- The condition on a path with what follows the path. -/
def readComparison (path rest : Text) : Except HeaderError Condition :=
  match Operator.read? (rest.dropWhile Char.isWhitespace) with
  | some (operator, literal) => .ok ⟨path, some ⟨operator, unquote literal.trim⟩⟩
  | none => if rest.trim = [] then .ok ⟨path, none⟩ else .error (.afterCondition rest.trim)

namespace Opening

theorem stops_if (rest : Text) : Header.Stops Char.isWhitespace ("if".toList ++ rest) :=
  Header.stops_append (by decide) (forall_mem_of_all (by decide))

theorem WellFormed.stops_path {opening : Opening} (wellFormed : opening.WellFormed) (rest : Text) :
    Header.Stops Char.isWhitespace (opening.path ++ rest) :=
  Header.stops_path wellFormed.path_ne_nil wellFormed.path rest

theorem text_append (opening : Opening) (rest : Text) :
    opening.text ++ rest = opening.beforeKeyword ++
      ("if".toList ++ (opening.afterKeyword ++ (opening.path ++ rest))) := by
  simp only [text, List.append_assoc]

theorem WellFormed.read_append {opening : Opening} (wellFormed : opening.WellFormed) {rest : Text}
    (stops : Header.Stops Header.isPathCharacter rest) :
    read (opening.text ++ rest) = readComparison opening.path rest := by
  have start : (opening.text ++ rest).dropWhile Char.isWhitespace =
      "if".toList ++ (opening.afterKeyword ++ (opening.path ++ rest)) := by
    rw [text_append]
    exact Header.dropWhile_append_of_stops wellFormed.beforeKeyword (stops_if _)
  have keyword : Header.dropKeyword? "if".toList
      ("if".toList ++ (opening.afterKeyword ++ (opening.path ++ rest))) = some (opening.path ++ rest) :=
    Header.dropKeyword?_append _ wellFormed.afterKeyword.1 wellFormed.afterKeyword.2
      (wellFormed.stops_path rest)
  have pathRun : Header.run? Header.isPathCharacter (opening.path ++ rest) =
      some (opening.path, rest) :=
    Header.run?_append wellFormed.path_ne_nil wellFormed.path stops
  simp only [read, start, keyword, pathRun, Option.bind_eq_bind, Option.bind_some]
  rfl

theorem WellFormed.eq_of_append_eq {opening other : Opening} (wellFormed : opening.WellFormed)
    (wellFormed' : other.WellFormed) {rest rest' : Text}
    (stops : Header.Stops Header.isPathCharacter rest)
    (stops' : Header.Stops Header.isPathCharacter rest')
    (same : opening.text ++ rest = other.text ++ rest') : rest = rest' := by
  rw [text_append, text_append] at same
  obtain ⟨-, same⟩ := Header.append_inj_of_stops wellFormed.beforeKeyword (stops_if _)
    wellFormed'.beforeKeyword (stops_if _) same
  obtain ⟨-, same⟩ := Header.append_inj_of_stops wellFormed.afterKeyword.2 (wellFormed.stops_path _)
    wellFormed'.afterKeyword.2 (wellFormed'.stops_path _) (List.append_cancel_left same)
  exact (Header.append_inj_of_stops wellFormed.path stops wellFormed'.path stops' same).2

end Opening

variable {content rest : Text} {condition : Condition} {comparison : Option Comparison}

theorem exists_opening_of_read (success : read content = .ok condition) :
    ∃ (opening : Opening) (rest : Text), opening.WellFormed ∧
      Header.Stops Header.isPathCharacter rest ∧ content = opening.text ++ rest := by
  rw [read] at success
  split at success
  · cases success
  · next path rest header =>
      simp only [Option.bind_eq_bind, Option.bind_eq_some_iff] at header
      obtain ⟨afterIf, keyword, pathRun⟩ := header
      obtain ⟨gap, isGap, whole⟩ := Header.exists_eq_append_dropWhile Char.isWhitespace content
      obtain ⟨gapIf, nonempty, isGapIf, starts⟩ := Header.exists_gap_of_dropKeyword? keyword
      obtain ⟨pathNonempty, pathed, stops, rfl⟩ := Header.run?_eq_some_iff.mp pathRun
      refine ⟨⟨gap, gapIf, path⟩, rest, ⟨isGap, ⟨nonempty, isGapIf⟩, pathNonempty, pathed⟩, stops, ?_⟩
      rw [Opening.text_append, ← starts]
      exact whole

theorem path_of_readComparison {path : Text} (success : readComparison path rest = .ok condition) :
    condition.path = path := by
  rw [readComparison] at success
  split at success
  · cases success
    rfl
  · split at success
    · cases success
      rfl
    · cases success

theorem WritesComparison.stops (writes : WritesComparison rest comparison) :
    Header.Stops Header.isPathCharacter rest := by
  cases writes with
  | none blank => exact Header.stops_blank blank
  | some isGap operator => exact Operator.stops_gap_append isGap operator _

/-- What is read from a text after a path is the comparison that is written there. -/
theorem writesComparison_iff (path : Text) :
    WritesComparison rest comparison ↔
      readComparison path rest = .ok ⟨path, comparison⟩ ∧
        ∀ gap operator written, Header.IsGap gap → rest = gap ++ (Operator.text operator ++ written) →
          Header.Stops Operator.isMark written := by
  constructor
  · intro writes
    cases writes with
    | none blank =>
        have absent : Operator.read? (rest.dropWhile Char.isWhitespace) = none := by
          rw [Option.eq_none_iff_forall_ne_some]
          rintro ⟨operator, written⟩ found
          obtain ⟨gap, -, rfl⟩ := Operator.exists_gap_of_read?_dropWhile found
          exact Operator.not_blank_append gap operator written blank
        constructor
        · simp only [readComparison, absent, Text.trim_eq_nil blank, ↓reduceIte]
        · rintro gap operator written - rfl
          exact absurd blank (Operator.not_blank_append gap operator written)
    | @some gap written literal isGap operator writes =>
        obtain ⟨rfl, stops⟩ := writesLiteral_iff.mp writes
        have found := Operator.read?_dropWhile isGap operator written
        constructor
        · simp only [readComparison, found]
        · intro gap' operator' written' isGap' same
          rw [same, Operator.read?_dropWhile isGap'] at found
          cases found
          exact stops
  · rintro ⟨success, ends⟩
    rw [readComparison] at success
    split at success
    · next operator written found =>
        cases success
        obtain ⟨gap, isGap, rfl⟩ := Operator.exists_gap_of_read?_dropWhile found
        exact .some isGap operator (writesLiteral_iff.mpr ⟨rfl, ends gap operator written isGap rfl⟩)
    · split at success
      · next blank =>
          cases success
          exact .none (Text.blank_of_trim_eq_nil blank)
      · cases success

/-- What is read from a header is the condition that is written there. Every header that is read is a
written condition, unless its operator goes on with a further mark. -/
theorem read_inverts_writing (content : Text) (condition : Condition) :
    Writes content condition ↔ read content = .ok condition ∧ OperatorEnds content := by
  constructor
  · rintro ⟨opening, rest, wellFormed, path, writes, rfl⟩
    obtain ⟨success, ends⟩ := (writesComparison_iff opening.path).mp writes
    constructor
    · rw [wellFormed.read_append writes.stops, success, path]
    · intro opening' gap operator written wellFormed' isGap same
      exact ends gap operator written isGap (wellFormed.eq_of_append_eq wellFormed' writes.stops
        (Operator.stops_gap_append isGap operator written) same)
  · rintro ⟨success, ends⟩
    obtain ⟨opening, rest, wellFormed, stops, rfl⟩ := exists_opening_of_read success
    rw [wellFormed.read_append stops] at success
    obtain ⟨path, comparison⟩ := condition
    obtain rfl := path_of_readComparison success
    refine ⟨opening, rest, wellFormed, rfl, (writesComparison_iff _).mpr ⟨success, ?_⟩, rfl⟩
    rintro gap operator written isGap rfl
    exact ends opening gap operator written wellFormed isGap rfl

/-- An operator that goes on is read as far as an operator can, and the rest belongs to the literal. -/
example : read "if a===b".toList = .ok ⟨"a".toList, some ⟨.equals, "=b".toList⟩⟩ := rfl

end Condition

end Stencil

import Mathlib.Data.List.Basic
import Stencil.Escape.Html
import Stencil.Proofs.Text.Searching

/-!
# Rows of attributes

A text is read as a row of attributes, each a name, an equals sign, spaces and a quoted value, with something
left over at the end. A name goes on to the first equals sign that opens a value, so that it never takes in
another attribute, and every text has exactly one such reading.
-/

set_option autoImplicit false

namespace Stencil.Escape

/-! ## A row of attributes -/

/-- Somewhere behind its start a text has an equals sign with spaces and a double quote after it. -/
def OpensValue (text : Text) : Prop :=
  ∃ before spaces after, before ≠ [] ∧
    text = before ++ '=' :: (List.replicate spaces ' ' ++ '"' :: after)

/-- An attribute as it stands in a text. Its name goes on to the first equals sign that opens a value, and
the value to the next double quote. -/
structure AttributeSource where
  name : Text
  /-- The number of spaces before the value. -/
  spaces : Nat
  value : Text
  name_ne_nil : name ≠ []
  name_ends : ¬OpensValue name
  value_ends : '"' ∉ value

namespace AttributeSource

def text (source : AttributeSource) : Text :=
  source.name ++ '=' :: (List.replicate source.spaces ' ' ++ '"' :: (source.value ++ ['"']))

def trimmedName (source : AttributeSource) : Text := source.name.trim

def trimmedValue (source : AttributeSource) : Text := source.value.trim

end AttributeSource

/-- A text is a row of attributes, with a rest behind them that does not start with one more. -/
structure ReadsAttributes (text : Text) (sources : List AttributeSource) (rest : Text) : Prop where
  whole : text = sources.flatMap AttributeSource.text ++ rest
  finished : ∀ (source : AttributeSource) (after : Text), rest ≠ source.text ++ after

/-! ## Where a value opens -/

section

variable {text name other before before' after after' : Text} {character mark : Char} {spaces : Nat}

/-- A text ends with an equals sign, not at its start, and spaces after it. -/
def AwaitsValue (text : Text) : Prop :=
  ∃ before spaces, before ≠ [] ∧ text = before ++ '=' :: List.replicate spaces ' '

theorem OpensValue.append (opens : OpensValue text) (later : Text) : OpensValue (text ++ later) := by
  obtain ⟨before, spaces, after, nonempty, rfl⟩ := opens
  exact ⟨before, spaces, after ++ later, nonempty, by simp⟩

theorem opensValue_concat_iff : OpensValue (text ++ [character]) ↔
    OpensValue text ∨ character = '"' ∧ AwaitsValue text := by
  constructor
  · rintro ⟨before, spaces, after, nonempty, same⟩
    rcases List.eq_nil_or_concat after with rfl | ⟨after, last, rfl⟩
    · have ends : text ++ [character] = (before ++ '=' :: List.replicate spaces ' ') ++ ['"'] := by
        simp [same]
      obtain ⟨rfl, quote⟩ := List.append_inj' ends rfl
      exact .inr ⟨List.singleton_inj.mp quote, before, spaces, nonempty, rfl⟩
    · have ends : text ++ [character] =
          (before ++ '=' :: (List.replicate spaces ' ' ++ '"' :: after)) ++ [last] := by
        simp [same]
      obtain ⟨rfl, -⟩ := List.append_inj' ends rfl
      exact .inl ⟨before, spaces, after, nonempty, rfl⟩
  · rintro (opens | ⟨rfl, before, spaces, nonempty, rfl⟩)
    · exact opens.append _
    · exact ⟨before, spaces, [], nonempty, by simp⟩

theorem awaitsValue_concat_iff : AwaitsValue (text ++ [character]) ↔
    character = '=' ∧ text ≠ [] ∨ character = ' ' ∧ AwaitsValue text := by
  constructor
  · rintro ⟨before, spaces, nonempty, same⟩
    cases spaces with
    | zero =>
        obtain ⟨rfl, equals⟩ := List.append_inj' same rfl
        exact .inl ⟨List.singleton_inj.mp equals, nonempty⟩
    | succ spaces =>
        have ends : text ++ [character] = (before ++ '=' :: List.replicate spaces ' ') ++ [' '] := by
          simp [same, List.replicate_succ']
        obtain ⟨rfl, space⟩ := List.append_inj' ends rfl
        exact .inr ⟨List.singleton_inj.mp space, before, spaces, nonempty, rfl⟩
  · rintro (⟨rfl, nonempty⟩ | ⟨rfl, before, spaces, nonempty, rfl⟩)
    · exact ⟨text, 0, nonempty, rfl⟩
    · exact ⟨before, spaces + 1, nonempty, by simp [List.replicate_succ']⟩

theorem opensValue_append_equals_iff :
    OpensValue (name ++ '=' :: List.replicate spaces ' ') ↔ OpensValue name := by
  induction spaces with
  | zero => simp [opensValue_concat_iff]
  | succ spaces ih =>
      rw [List.replicate_succ', ← List.cons_append, ← List.append_assoc, opensValue_concat_iff, ih]
      simp

theorem not_opensValue_of_not_mem (plain : '=' ∉ text) : ¬OpensValue text := by
  rintro ⟨before, spaces, after, -, rfl⟩
  simp at plain

theorem AttributeSource.opensValue_text (source : AttributeSource) : OpensValue source.text :=
  ⟨source.name, source.spaces, source.value ++ ['"'], source.name_ne_nil, rfl⟩

/-- Two texts agree up to the first place of a mark. -/
theorem append_mark_inj (ends : mark ∉ before) (ends' : mark ∉ before')
    (same : before ++ mark :: after = before' ++ mark :: after') : before = before' ∧ after = after' :=
  (Text.isFirst_singleton_iff.mpr ends).append_inj (Text.isFirst_singleton_iff.mpr ends') same

/-- Behind spaces and a double quote, an equals sign has both of them before it. -/
theorem exists_quote_of_equals {rest tail : Text}
    (same : List.replicate spaces ' ' ++ '"' :: after = rest ++ '=' :: tail) :
    ∃ later, rest = List.replicate spaces ' ' ++ '"' :: later := by
  induction spaces generalizing rest with
  | zero =>
      cases rest with
      | nil => cases (List.cons.inj same).1
      | cons head later => exact ⟨later, congrArg (· :: later) (List.cons.inj same).1.symm⟩
  | succ spaces ih =>
      cases rest with
      | nil => cases (List.cons.inj same).1
      | cons head rest =>
          obtain ⟨rfl, further⟩ := List.cons.inj same
          obtain ⟨later, rfl⟩ := ih further
          exact ⟨later, rfl⟩

/-- A name cannot go on past an equals sign that opens a value. -/
theorem eq_nil_of_opening {middle tail : Text} (nonempty : name ≠ [])
    (unopened : ¬OpensValue (name ++ middle))
    (same : '=' :: (List.replicate spaces ' ' ++ '"' :: after) = middle ++ '=' :: tail) :
    middle = [] := by
  cases middle with
  | nil => rfl
  | cons head rest =>
      obtain ⟨rfl, further⟩ := List.cons.inj same
      obtain ⟨later, rfl⟩ := exists_quote_of_equals further
      exact absurd ⟨name, spaces, later, nonempty, rfl⟩ unopened

/-- The first equals sign that opens a value has one place. -/
theorem opening_inj {more : Nat} (nonempty : name ≠ []) (unopened : ¬OpensValue name)
    (otherNonempty : other ≠ []) (otherUnopened : ¬OpensValue other)
    (same : name ++ '=' :: (List.replicate spaces ' ' ++ '"' :: after) =
      other ++ '=' :: (List.replicate more ' ' ++ '"' :: after')) :
    name = other ∧ spaces = more ∧ after = after' := by
  have names : name = other := by
    rcases List.append_eq_append_iff.mp same with ⟨middle, rfl, behind⟩ | ⟨middle, rfl, behind⟩
    · rw [eq_nil_of_opening nonempty otherUnopened behind, List.append_nil]
    · rw [eq_nil_of_opening otherNonempty unopened behind, List.append_nil]
  subst names
  have unquoted (spaces : Nat) : '"' ∉ List.replicate spaces ' ' := by simp
  obtain ⟨gaps, rfl⟩ := append_mark_inj (unquoted spaces) (unquoted more)
    (List.cons.inj (List.append_cancel_left same)).2
  exact ⟨rfl, by simpa using congrArg List.length gaps, rfl⟩

end

/-! ## There is one reading -/

theorem AttributeSource.text_append_inj {source other : AttributeSource} {after after' : Text}
    (same : source.text ++ after = other.text ++ after') : source = other ∧ after = after' := by
  have split (source : AttributeSource) (after : Text) : source.text ++ after =
      source.name ++ '=' :: (List.replicate source.spaces ' ' ++ '"' :: (source.value ++ '"' :: after)) := by
    simp [text]
  rw [split, split] at same
  obtain ⟨names, gaps, values⟩ := opening_inj source.name_ne_nil source.name_ends other.name_ne_nil
    other.name_ends same
  obtain ⟨value, rfl⟩ := append_mark_inj source.value_ends other.value_ends values
  obtain ⟨name, spaces, text⟩ := source
  cases names
  cases gaps
  cases value
  exact ⟨rfl, rfl⟩

theorem ReadsAttributes.unique {text rest remainder : Text} {sources others : List AttributeSource}
    (reads : ReadsAttributes text sources rest) (alsoReads : ReadsAttributes text others remainder) :
    others = sources ∧ remainder = rest := by
  obtain ⟨rfl, finished⟩ := reads
  obtain ⟨same, otherFinished⟩ := alsoReads
  induction sources generalizing others with
  | nil =>
      cases others with
      | nil => exact ⟨rfl, same.symm⟩
      | cons other others =>
          rw [List.flatMap_cons, List.append_assoc] at same
          exact absurd same (finished other _)
  | cons source sources ih =>
      rw [List.flatMap_cons, List.append_assoc] at same
      cases others with
      | nil => exact absurd same.symm (otherFinished source _)
      | cons other others =>
          rw [List.flatMap_cons, List.append_assoc] at same
          obtain ⟨rfl, later⟩ := AttributeSource.text_append_inj same
          obtain ⟨rfl, rfl⟩ := ih later
          exact ⟨rfl, rfl⟩

/-! ## What is read -/

/-- What a cursor stands for: the text that has been read since the last attribute. -/
inductive AttributeCursor.HasRead : AttributeCursor → Text → Prop where
  | name (name : Text) (unopened : ¬OpensValue name.reverse) (unawaited : ¬AwaitsValue name.reverse) :
      HasRead (.name name) name.reverse
  | gap (name : Text) (spaces : Nat) (nonempty : name ≠ []) (unopened : ¬OpensValue name.reverse) :
      HasRead (.gap name (List.replicate spaces ' ' ++ '=' :: name))
        (name.reverse ++ '=' :: List.replicate spaces ' ')
  | value (name : Text) (spaces : Nat) (value : Text) (nonempty : name ≠ [])
      (unopened : ¬OpensValue name.reverse) (unended : '"' ∉ value) :
      HasRead (.value name value)
        (name.reverse ++ '=' :: (List.replicate spaces ' ' ++ '"' :: value.reverse))

theorem AttributeCursor.hasRead_start : HasRead (.name []) [] := by
  have unopened : ¬OpensValue [] := not_opensValue_of_not_mem List.not_mem_nil
  have unawaited : ¬AwaitsValue [] := by
    rintro ⟨before, spaces, -, same⟩
    simp at same
  exact .name [] unopened unawaited

/-- What has been read since the last attribute does not start with one. -/
theorem AttributeCursor.HasRead.ne_text_append {cursor : AttributeCursor} {taken : Text}
    (hasRead : cursor.HasRead taken) (source : AttributeSource) (after : Text) :
    taken ≠ source.text ++ after := by
  rintro rfl
  have opens := source.opensValue_text.append after
  generalize same : source.text ++ after = taken at hasRead opens
  cases hasRead with
  | name name unopened _ => exact unopened opens
  | gap name spaces _ unopened => exact unopened (opensValue_append_equals_iff.mp opens)
  | value name spaces value nonempty unopened unended =>
      have shape : source.name ++ '=' :: (List.replicate source.spaces ' ' ++
          '"' :: (source.value ++ '"' :: after)) =
            name.reverse ++ '=' :: (List.replicate spaces ' ' ++ '"' :: value.reverse) := by
        simpa [AttributeSource.text] using same
      obtain ⟨-, -, values⟩ := opening_inj source.name_ne_nil source.name_ends (by simpa using nonempty)
        unopened shape
      have quote : '"' ∈ value.reverse := by simp [← values]
      exact unended (List.mem_reverse.mp quote)

/-- With one more character either an attribute ends, or something else has been read since the last one. -/
theorem AttributeCursor.HasRead.step {cursor : AttributeCursor} {taken : Text}
    (hasRead : cursor.HasRead taken) (head : Char) :
    (∃ source : AttributeSource, taken ++ [head] = source.text ∧ ∀ text,
      attributes cursor (head :: text) =
        (source.trimmedName, source.trimmedValue) :: attributes (.name []) text) ∨
      ∃ next : AttributeCursor, next.HasRead (taken ++ [head]) ∧ ∀ text,
        attributes cursor (head :: text) = attributes next text := by
  have goesOn {next : AttributeCursor} {longer : Text} (reads : next.HasRead longer)
      (extended : longer = taken ++ [head])
      (same : ∀ text, attributes cursor (head :: text) = attributes next text) :
      ∃ next : AttributeCursor, next.HasRead (taken ++ [head]) ∧ ∀ text,
        attributes cursor (head :: text) = attributes next text :=
    ⟨next, extended ▸ reads, same⟩
  cases hasRead with
  | name name unopened unawaited =>
      right
      by_cases ends : head = '=' ∧ name ≠ []
      · obtain ⟨rfl, nonempty⟩ := ends
        exact goesOn (.gap name 0 nonempty unopened) rfl (by simp [attributes, nonempty])
      · refine goesOn (.name (head :: name) ?_ ?_) List.reverse_cons
          (by simp only [attributes, if_neg ends, implies_true])
        · simp [opensValue_concat_iff, unopened, unawaited]
        · simpa [awaitsValue_concat_iff, unawaited] using ends
  | gap name spaces nonempty unopened =>
      right
      have stillUnopened : ¬OpensValue (List.replicate spaces ' ' ++ '=' :: name).reverse := by
        simpa using opensValue_append_equals_iff.not.mpr unopened
      by_cases space : head = ' '
      · subst space
        refine goesOn (.gap name (spaces + 1) nonempty unopened) ?_ ?_
        · simp [List.replicate_succ']
        · simp [attributes, List.replicate_succ]
      by_cases opens : head = '"'
      · subst opens
        exact goesOn (.value name spaces [] nonempty unopened (by simp)) (by simp)
          (by simp [attributes])
      by_cases equals : head = '='
      · subst equals
        exact goesOn (.gap _ 0 (by simp) stillUnopened) (by simp) (by simp [attributes])
      · refine goesOn (.name (head :: (List.replicate spaces ' ' ++ '=' :: name)) ?_ ?_) (by simp)
          (by simp [attributes, space, opens, equals])
        · rw [List.reverse_cons, opensValue_concat_iff]
          simp only [stillUnopened, opens, false_and, or_self, not_false_eq_true]
        · rw [List.reverse_cons, awaitsValue_concat_iff]
          simp only [equals, space, false_and, or_self, not_false_eq_true]
  | value name spaces value nonempty unopened unended =>
      by_cases ends : head = '"'
      · subst ends
        left
        refine ⟨⟨name.reverse, spaces, value.reverse, by simpa using nonempty, unopened,
          by simpa using unended⟩, by simp [AttributeSource.text], fun text => ?_⟩
        simp [attributes, AttributeSource.trimmedName, AttributeSource.trimmedValue]
      · right
        have longer : '"' ∉ head :: value := by
          rw [List.mem_cons, not_or]
          exact ⟨Ne.symm ends, unended⟩
        exact goesOn (.value name spaces (head :: value) nonempty unopened longer) (by simp)
          (by simp [attributes, ends])

/-- Reading goes on to the end of the text, one attribute after the other. -/
theorem exists_sources_of_hasRead {cursor : AttributeCursor} {taken : Text}
    (hasRead : cursor.HasRead taken) (text : Text) :
    ∃ (sources : List AttributeSource) (rest : Text),
      ReadsAttributes (taken ++ text) sources rest ∧
        attributes cursor text = sources.map fun source => (source.trimmedName, source.trimmedValue) := by
  induction text generalizing cursor taken with
  | nil =>
      refine ⟨[], taken, ⟨List.append_nil taken, hasRead.ne_text_append⟩, ?_⟩
      cases hasRead <;> rfl
  | cons head text ih =>
      rw [List.append_cons]
      rcases hasRead.step head with ⟨source, ended, read⟩ | ⟨next, goesOn, same⟩
      · obtain ⟨sources, rest, reads, made⟩ := ih AttributeCursor.hasRead_start
        refine ⟨source :: sources, rest, ⟨?_, reads.finished⟩, ?_⟩
        · rw [ended, List.flatMap_cons, List.append_assoc, ← reads.whole, List.nil_append]
        · rw [read, made, List.map_cons]
      · obtain ⟨sources, rest, reads, made⟩ := ih goesOn
        exact ⟨sources, rest, reads, (same text).trans made⟩

theorem ReadsAttributes.attributes_eq {text rest : Text} {sources : List AttributeSource}
    (reads : ReadsAttributes text sources rest) :
    attributes (.name []) text =
      sources.map fun source => (source.trimmedName, source.trimmedValue) := by
  obtain ⟨others, remainder, alsoReads, made⟩ :=
    exists_sources_of_hasRead AttributeCursor.hasRead_start text
  obtain ⟨rfl, -⟩ := reads.unique alsoReads
  exact made

end Stencil.Escape

import Stencil.Header

/-!
# Reading printed headers

The header of a loop is read back from every text in which it is written with some separators between
its parts.
-/

set_option autoImplicit false

namespace Stencil

namespace Header

section

variable {belongs : Char → Bool} {word rest : Text}

/-- A text does not go on with a character of a class. -/
def Stops (belongs : Char → Bool) (rest : Text) : Prop :=
  ∀ head, rest.head? = some head → belongs head = false

theorem dropWhile_append_of_stops (all : ∀ character ∈ word, belongs character = true)
    (stops : Stops belongs rest) : (word ++ rest).dropWhile belongs = rest := by
  rw [List.dropWhile_append_of_pos all]
  cases rest with
  | nil => rfl
  | cons head tail => simp [stops head rfl]

theorem takeWhile_append_of_stops (all : ∀ character ∈ word, belongs character = true)
    (stops : Stops belongs rest) : (word ++ rest).takeWhile belongs = word := by
  rw [List.takeWhile_append_of_pos all]
  cases rest with
  | nil => exact List.append_nil word
  | cons head tail => simp [stops head rfl]

theorem stops_append (nonempty : word ≠ [])
    (outside : ∀ character ∈ word, belongs character = false) : Stops belongs (word ++ rest) := by
  intro head starts
  cases word with
  | nil => exact absurd rfl nonempty
  | cons beginning further =>
      cases starts
      exact outside head List.mem_cons_self

theorem stops_of_all (outside : ∀ character ∈ rest, belongs character = false) :
    Stops belongs rest := by
  intro head starts
  exact outside head (List.mem_of_head? starts)

theorem run?_append (nonempty : word ≠ []) (all : ∀ character ∈ word, belongs character = true)
    (stops : Stops belongs rest) : run? belongs (word ++ rest) = some (word, rest) := by
  rw [run?, takeWhile_append_of_stops all stops, dropWhile_append_of_stops all stops,
    if_neg nonempty]

end

/-- A run of separators, which may be empty. -/
def IsGap (gap : Text) : Prop := ∀ character ∈ gap, character.isWhitespace = true

variable {gap rest : Text}

theorem dropSeparators?_append (nonempty : gap ≠ []) (blank : IsGap gap)
    (stops : Stops Char.isWhitespace rest) : dropSeparators? (gap ++ rest) = some rest := by
  cases gap with
  | nil => exact absurd rfl nonempty
  | cons head further =>
      have later : ∀ character ∈ further, character.isWhitespace = true :=
        fun character member => blank character (List.mem_cons_of_mem _ member)
      rw [List.cons_append, dropSeparators?, if_pos (blank head List.mem_cons_self),
        dropWhile_append_of_stops later stops]

theorem dropKeyword?_append (keyword : Text) (nonempty : gap ≠ []) (blank : IsGap gap)
    (stops : Stops Char.isWhitespace rest) :
    dropKeyword? keyword (keyword ++ (gap ++ rest)) = some rest := by
  have dropped : Text.dropLiteral? keyword (keyword ++ (gap ++ rest)) = some (gap ++ rest) :=
    Text.dropLiteral?_eq_some_iff.mpr rfl
  rw [dropKeyword?, dropped]
  exact dropSeparators?_append nonempty blank stops

/-! ## Classes of characters -/

theorem isNameCharacter_of_isWhitespace {character : Char} (white : character.isWhitespace = true) :
    isNameCharacter character = false := by
  rcases eq_or_eq_of_isWhitespace white with rfl | rfl | rfl | rfl <;> decide +kernel

theorem isWhitespace_of_isNameCharacter {character : Char}
    (named : isNameCharacter character = true) : character.isWhitespace = false := by
  cases white : character.isWhitespace with
  | false => rfl
  | true => rw [isNameCharacter_of_isWhitespace white] at named; cases named

theorem isPathCharacter_of_isBlank {character : Char} (blank : isBlank character = true) :
    isPathCharacter character = false := by
  rw [isPathCharacter, blank]
  rfl

theorem isWhitespace_of_isPathCharacter {character : Char}
    (among : isPathCharacter character = true) : character.isWhitespace = false := by
  cases white : character.isWhitespace with
  | false => rfl
  | true => rw [isPathCharacter_of_isBlank (isBlank_of_isWhitespace white)] at among; cases among

theorem stops_path {path : Text} (nonempty : path ≠ [])
    (all : ∀ character ∈ path, isPathCharacter character = true) (rest : Text) :
    Stops Char.isWhitespace (path ++ rest) :=
  stops_append nonempty fun character member => isWhitespace_of_isPathCharacter (all character member)

theorem stops_blank {text : Text} (blank : ∀ character ∈ text, isBlank character = true) :
    Stops isPathCharacter text :=
  stops_of_all fun character member => isPathCharacter_of_isBlank (blank character member)

theorem stops_for (rest : Text) : Stops Char.isWhitespace ("for".toList ++ rest) :=
  stops_append (by decide) (forall_mem_of_all (by decide))

theorem stops_in (rest : Text) : Stops Char.isWhitespace ("in".toList ++ rest) :=
  stops_append (by decide) (forall_mem_of_all (by decide))

end Header

theorem Text.trim_eq_nil {text : Text} (blank : ∀ character ∈ text, isBlank character = true) :
    text.trim = [] := by
  have dropped : (text ++ []).dropWhile isBlank = [] :=
    Header.dropWhile_append_of_stops blank (Header.stops_of_all fun _ none => by cases none)
  rw [List.append_nil] at dropped
  rw [Text.trim, Text.trimBoth, dropped]
  rfl

namespace Iteration

/-- The parts of the header of a loop as it is written. -/
structure Parts where
  beforeKeyword : Text
  afterKeyword : Text
  name : Text
  afterName : Text
  afterIn : Text
  path : Text
  afterPath : Text

namespace Parts

def text (parts : Parts) : Text :=
  parts.beforeKeyword ++ ("for".toList ++ (parts.afterKeyword ++ (parts.name ++ (parts.afterName ++
    ("in".toList ++ (parts.afterIn ++ (parts.path ++ parts.afterPath)))))))

/-- Separators stand where they have to, and the name and the path are made of their own characters.
-/
structure WellFormed (parts : Parts) : Prop where
  beforeKeyword : Header.IsGap parts.beforeKeyword
  afterKeyword : parts.afterKeyword ≠ [] ∧ Header.IsGap parts.afterKeyword
  name_ne_nil : parts.name ≠ []
  name : ∀ character ∈ parts.name, Header.isNameCharacter character = true
  afterName : parts.afterName ≠ [] ∧ Header.IsGap parts.afterName
  afterIn : parts.afterIn ≠ [] ∧ Header.IsGap parts.afterIn
  path_ne_nil : parts.path ≠ []
  path : ∀ character ∈ parts.path, Header.isPathCharacter character = true
  afterPath : ∀ character ∈ parts.afterPath, isBlank character = true

section

variable {parts : Parts} (wellFormed : parts.WellFormed) (rest : Text)

include wellFormed

/-! Every run ends where the next part starts, whatever stands after that part. -/

theorem WellFormed.stops_name : Header.Stops Char.isWhitespace (parts.name ++ rest) :=
  Header.stops_append wellFormed.name_ne_nil fun character member =>
    Header.isWhitespace_of_isNameCharacter (wellFormed.name character member)

theorem WellFormed.stops_afterName :
    Header.Stops Header.isNameCharacter (parts.afterName ++ rest) :=
  Header.stops_append wellFormed.afterName.1 fun character member =>
    Header.isNameCharacter_of_isWhitespace (wellFormed.afterName.2 character member)

theorem WellFormed.stops_path : Header.Stops Char.isWhitespace (parts.path ++ rest) :=
  Header.stops_path wellFormed.path_ne_nil wellFormed.path rest

theorem WellFormed.stops_afterPath : Header.Stops Header.isPathCharacter parts.afterPath :=
  Header.stops_blank wellFormed.afterPath

end

theorem WellFormed.read_text {parts : Parts} (wellFormed : parts.WellFormed) :
    read parts.text = .ok ⟨parts.name, parts.path⟩ := by
  have start (rest : Text) :
      (parts.beforeKeyword ++ ("for".toList ++ rest)).dropWhile Char.isWhitespace =
        "for".toList ++ rest :=
    Header.dropWhile_append_of_stops wellFormed.beforeKeyword (Header.stops_for rest)
  have keyword (rest : Text) : Header.dropKeyword? "for".toList
      ("for".toList ++ (parts.afterKeyword ++ (parts.name ++ rest))) = some (parts.name ++ rest) :=
    Header.dropKeyword?_append _ wellFormed.afterKeyword.1 wellFormed.afterKeyword.2
      (wellFormed.stops_name rest)
  have nameRun (rest : Text) :
      Header.run? Header.isNameCharacter (parts.name ++ (parts.afterName ++ rest)) =
        some (parts.name, parts.afterName ++ rest) :=
    Header.run?_append wellFormed.name_ne_nil wellFormed.name (wellFormed.stops_afterName rest)
  have separated (rest : Text) :
      Header.dropSeparators? (parts.afterName ++ ("in".toList ++ rest)) = some ("in".toList ++ rest) :=
    Header.dropSeparators?_append wellFormed.afterName.1 wellFormed.afterName.2 (Header.stops_in rest)
  have connective (rest : Text) : Header.dropKeyword? "in".toList
      ("in".toList ++ (parts.afterIn ++ (parts.path ++ rest))) = some (parts.path ++ rest) :=
    Header.dropKeyword?_append _ wellFormed.afterIn.1 wellFormed.afterIn.2
      (wellFormed.stops_path rest)
  have pathRun : Header.run? Header.isPathCharacter (parts.path ++ parts.afterPath) =
      some (parts.path, parts.afterPath) :=
    Header.run?_append wellFormed.path_ne_nil wellFormed.path wellFormed.stops_afterPath
  rw [text]
  simp only [read, start, keyword, nameRun, separated, connective, pathRun, Option.bind_eq_bind,
    Option.bind_some, Option.pure_def, Text.trim_eq_nil wellFormed.afterPath, ↓reduceIte]

end Parts

end Iteration

end Stencil

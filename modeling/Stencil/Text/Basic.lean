/-!
# Text

A text is a sequence of characters, and a position in it is a number of bytes of its UTF-8 form.

This module measures texts in bytes, cuts them at byte positions and takes them apart at
characters and at literal pieces. Its main statements are

* `Text.splitAt?_eq_some_iff`: a cut succeeds exactly at the byte length of an initial part;
* `Text.append_eq_of_breakOn?`: breaking a text at a literal loses nothing;
* `Text.join_split`: the pieces of a split, joined again, are the text.
-/

set_option autoImplicit false

namespace Stencil

/-- A text: its characters from left to right. -/
abbrev Text := List Char

namespace Text

/-! ## Length and position in bytes -/

@[simp] theorem utf8Size_ne_zero (character : Char) : character.utf8Size ≠ 0 :=
  Nat.ne_of_gt character.utf8Size_pos

/-- Number of bytes in the UTF-8 form of a text. -/
def size : Text → Nat
  | [] => 0
  | head :: rest => head.utf8Size + size rest

@[simp] theorem size_nil : size [] = 0 := rfl

@[simp] theorem size_cons (head : Char) (rest : Text) :
    size (head :: rest) = head.utf8Size + size rest := rfl

@[simp] theorem size_append (left right : Text) : size (left ++ right) = size left + size right := by
  induction left with
  | nil => simp
  | cons head rest ih => simp [ih, Nat.add_assoc]

@[simp] theorem size_eq_zero_iff {text : Text} : size text = 0 ↔ text = [] := by
  cases text with
  | nil => simp
  | cons head rest => simp

/-- Cuts a text at a byte position. There is no cut past the end or inside a character. -/
def splitAt? : Nat → Text → Option (Text × Text)
  | position, [] => if position = 0 then some ([], []) else none
  | position, head :: rest =>
      if position = 0 then some ([], head :: rest)
      else if head.utf8Size ≤ position then
        (splitAt? (position - head.utf8Size) rest).map fun (left, right) => (head :: left, right)
      else none

@[simp] theorem splitAt?_zero (text : Text) : splitAt? 0 text = some ([], text) := by
  cases text <;> rfl

/-- The byte length of a left part is a place to cut, and the cut gives that part back. -/
@[simp] theorem splitAt?_size_append (left right : Text) :
    splitAt? (size left) (left ++ right) = some (left, right) := by
  induction left with
  | nil => simp
  | cons head rest ih =>
      simp [splitAt?, ih]

theorem append_eq_and_size_eq_of_splitAt? {position : Nat} {text left right : Text}
    (cut : splitAt? position text = some (left, right)) :
    text = left ++ right ∧ size left = position := by
  induction text generalizing position left with
  | nil =>
      simp only [splitAt?] at cut
      split at cut <;> simp_all
  | cons head rest ih =>
      simp only [splitAt?] at cut
      split at cut
      · simp_all
      · split at cut
        · obtain ⟨⟨inner, outer⟩, inside, same⟩ := Option.map_eq_some_iff.mp cut
          obtain ⟨rfl, rfl⟩ := Prod.mk.inj same
          obtain ⟨rfl, length⟩ := ih inside
          exact ⟨rfl, by rw [size_cons, length]; omega⟩
        · simp at cut

/-- A cut succeeds exactly at the byte length of an initial part of the text. -/
theorem splitAt?_eq_some_iff {position : Nat} {text left right : Text} :
    splitAt? position text = some (left, right) ↔ text = left ++ right ∧ size left = position :=
  ⟨append_eq_and_size_eq_of_splitAt?, fun ⟨whole, length⟩ => by
    rw [whole, ← length, splitAt?_size_append]⟩

/-- The characters that start before a byte position. -/
def takeBytes : Nat → Text → Text
  | _, [] => []
  | position, head :: rest =>
      if position = 0 then [] else head :: takeBytes (position - head.utf8Size) rest

/-- The characters that start at or after a byte position. -/
def dropBytes : Nat → Text → Text
  | _, [] => []
  | position, head :: rest =>
      if position = 0 then head :: rest else dropBytes (position - head.utf8Size) rest

@[simp] theorem takeBytes_zero (text : Text) : takeBytes 0 text = [] := by cases text <;> rfl

@[simp] theorem dropBytes_zero (text : Text) : dropBytes 0 text = text := by cases text <;> rfl

@[simp] theorem takeBytes_append_dropBytes (position : Nat) (text : Text) :
    takeBytes position text ++ dropBytes position text = text := by
  induction text generalizing position with
  | nil => rfl
  | cons head rest ih => by_cases start : position = 0 <;> simp [takeBytes, dropBytes, start, ih]

@[simp] theorem takeBytes_size_append (left right : Text) :
    takeBytes (size left) (left ++ right) = left := by
  induction left with
  | nil => simp
  | cons head rest ih =>
      simp [takeBytes, ih]

@[simp] theorem dropBytes_size_append (left right : Text) :
    dropBytes (size left) (left ++ right) = right := by
  have whole := takeBytes_append_dropBytes (size left) (left ++ right)
  simpa using whole

/-- The characters that start in the half-open byte range from `start` to `stop`. -/
def slice (start stop : Nat) (text : Text) : Text :=
  takeBytes (stop - start) (dropBytes start text)

/-- Between two cuts of a text lies exactly the part between them. -/
@[simp] theorem slice_append_append (left middle right : Text) :
    slice (size left) (size left + size middle) (left ++ (middle ++ right)) = middle := by
  simp [slice]

/-! ## Literal pieces -/

/-- What follows a literal at the very start of a text, if the text starts with it. -/
def dropLiteral? : (literal text : Text) → Option Text
  | [], text => some text
  | _ :: _, [] => none
  | expected :: literal, head :: rest => if head = expected then dropLiteral? literal rest else none

theorem dropLiteral?_eq_some_iff {literal text rest : Text} :
    dropLiteral? literal text = some rest ↔ text = literal ++ rest := by
  induction literal generalizing text with
  | nil => simp [dropLiteral?]
  | cons expected literal ih =>
      cases text with
      | nil => simp [dropLiteral?]
      | cons head tail => by_cases same : head = expected <;> simp [dropLiteral?, same, ih]

/-- The text before and the text after the first occurrence of a literal. -/
def breakOn? (literal : Text) : Text → Option (Text × Text)
  | [] => if literal = [] then some ([], []) else none
  | head :: rest =>
      match dropLiteral? literal (head :: rest) with
      | some after => some ([], after)
      | none => (breakOn? literal rest).map fun (before, after) => (head :: before, after)

theorem append_eq_of_breakOn? {literal text before after : Text}
    (found : breakOn? literal text = some (before, after)) :
    text = before ++ (literal ++ after) := by
  induction text generalizing before with
  | nil => simp only [breakOn?] at found; split at found <;> simp_all
  | cons head rest ih =>
      simp only [breakOn?] at found
      split at found
      · next remainder here =>
          obtain ⟨rfl, rfl⟩ := Prod.mk.inj (Option.some.inj found)
          simpa using dropLiteral?_eq_some_iff.mp here
      · obtain ⟨⟨inner, outer⟩, later, same⟩ := Option.map_eq_some_iff.mp found
        obtain ⟨rfl, rfl⟩ := Prod.mk.inj same
        simpa using ih later

/-! ## Runs and pieces -/

/-- A text without the characters of a class at either end. -/
def trimBoth (strip : Char → Bool) (text : Text) : Text :=
  ((text.dropWhile strip).reverse.dropWhile strip).reverse

/-- The pieces of a text between separator characters. There is always at least one. -/
def split (separates : Char → Bool) : Text → List Text
  | [] => [[]]
  | head :: rest =>
      if separates head then [] :: split separates rest
      else
        match split separates rest with
        | [] => [[head]]
        | piece :: pieces => (head :: piece) :: pieces

theorem split_ne_nil (separates : Char → Bool) (text : Text) : split separates text ≠ [] := by
  cases text with
  | nil => simp [split]
  | cons head rest =>
      simp only [split]
      split
      · simp
      · split <;> simp

/-- Pieces written one after the other with a separator text between them. -/
def join (separator : Text) : List Text → Text
  | [] => []
  | [last] => last
  | piece :: next :: pieces => piece ++ (separator ++ join separator (next :: pieces))

/-- The pieces between all occurrences of one character give the text back. -/
theorem join_split (mark : Char) (text : Text) : join [mark] (split (· == mark) text) = text := by
  induction text with
  | nil => rfl
  | cons head rest ih =>
      obtain ⟨piece, pieces, shape⟩ := List.exists_cons_of_ne_nil (split_ne_nil (· == mark) rest)
      rw [shape] at ih
      by_cases same : head = mark
      · subst same
        simp [split, shape, join, ih]
      · cases pieces with
        | nil => simp_all [split, join]
        | cons next pieces => simp_all [split, join]

end Text

/-- A property of the characters of a text can be decided. There are finitely many characters in all, so
that otherwise the decision may go through all of them. -/
theorem forall_mem_of_all {text : Text} {holds : Char → Prop} [DecidablePred holds]
    (all : text.all (fun character => decide (holds character)) = true) :
    ∀ character ∈ text, holds character := by
  intro character member
  exact of_decide_eq_true (List.all_eq_true.mp all character member)

end Stencil

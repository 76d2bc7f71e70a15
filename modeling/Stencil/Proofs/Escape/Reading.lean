import Stencil.Text.Basic

/-!
# Reading escaped text

Escaped text is read in one pass from left to right. At each place either an escape starts, which stands
for some units as a whole, or the next character stands for itself. Units may be characters, UTF-16 units
or bytes.

A written form is read on its own if it is read in the same way whatever follows it. Texts that are
written character by character in such forms are read back, by `Reader.reads_flatMap`.
-/

set_option autoImplicit false

namespace Stencil.Escape

/-- A way to read escaped text. -/
structure Reader (Code : Type) where
  /-- The units of an escape at the very start of a text, and the text after it. -/
  escape? : Text → Option (List Code × Text)
  shorter {text rest : Text} {units : List Code} :
    escape? text = some (units, rest) → rest.length < text.length
  /-- The units of a character that no escape starts with. -/
  plain : Char → List Code

namespace Reader

variable {Code : Type}

/-- The units of a text. -/
def read (reader : Reader Code) (text : Text) : List Code :=
  match _ : reader.escape? text with
  | some (units, rest) => units ++ reader.read rest
  | none =>
      match text with
      | [] => []
      | head :: rest => reader.plain head ++ reader.read rest
termination_by text.length
decreasing_by
  · exact reader.shorter ‹_›
  · exact Nat.lt_succ_self _

variable {reader : Reader Code} {text rest : Text} {units : List Code}

theorem read_of_escape? (found : reader.escape? text = some (units, rest)) :
    reader.read text = units ++ reader.read rest := by
  rw [read]
  split
  · next found' =>
      obtain ⟨rfl, rfl⟩ := Prod.mk.inj (Option.some.inj (found'.symm.trans found))
      rfl
  · next none => rw [none] at found; cases found

@[simp] theorem read_nil : reader.read [] = [] := by
  rw [read]
  split
  · next found => exact absurd (reader.shorter found) (Nat.not_lt_zero _)
  · rfl

theorem read_cons {head : Char} (plain : reader.escape? (head :: rest) = none) :
    reader.read (head :: rest) = reader.plain head ++ reader.read rest := by
  rw [read]
  split
  · next found => rw [plain] at found; cases found
  · rfl

/-- A written form stands for some units, whatever follows it. -/
def Reads (reader : Reader Code) (written : Text) (units : List Code) : Prop :=
  ∀ rest, reader.read (written ++ rest) = units ++ reader.read rest

theorem reads_escape {written : Text}
    (found : ∀ rest, reader.escape? (written ++ rest) = some (units, rest)) :
    reader.Reads written units :=
  fun rest => read_of_escape? (found rest)

theorem reads_plain {character : Char}
    (plain : ∀ rest, reader.escape? (character :: rest) = none) :
    reader.Reads [character] (reader.plain character) :=
  fun rest => read_cons (plain rest)

theorem Reads.append {first second : Text} {firstUnits secondUnits : List Code}
    (readsFirst : reader.Reads first firstUnits) (readsSecond : reader.Reads second secondUnits) :
    reader.Reads (first ++ second) (firstUnits ++ secondUnits) := by
  intro rest
  rw [List.append_assoc, readsFirst, readsSecond, List.append_assoc]

theorem reads_flatMap {Item : Type} {items : List Item} {form : Item → Text}
    {value : Item → List Code} (each : ∀ item ∈ items, reader.Reads (form item) (value item)) :
    reader.Reads (items.flatMap form) (items.flatMap value) := by
  induction items with
  | nil => exact fun rest => rfl
  | cons item items ih =>
      exact (each item List.mem_cons_self).append
        (ih fun later member => each later (List.mem_cons_of_mem _ member))

/-- Units that are written one by one, each in a form that is read on its own, are read back. -/
theorem reads_flatMap_self {form : Code → Text}
    (each : ∀ unit ∈ units, reader.Reads (form unit) [unit]) :
    reader.Reads (units.flatMap form) units := by
  have forms : reader.Reads (units.flatMap form) (units.flatMap fun unit => [unit]) :=
    reads_flatMap each
  rwa [List.flatMap_singleton'] at forms

theorem Reads.read_eq {written : Text} (reads : reader.Reads written units) :
    reader.read written = units := by
  have whole := reads []
  rwa [List.append_nil, read_nil, List.append_nil] at whole

end Reader

/-! ## Where escapes stand -/

/-- A mark in a written text stands in the form of one of its items. If it starts an escape there, it does
so in the text. -/
theorem starts_of_suffix_flatMap {Starts : Text → Prop}
    (extend : ∀ {text : Text} (rest : Text), Starts text → Starts (text ++ rest)) {Item : Type}
    {items : List Item} {form : Item → Text} {mark : Char} {after : Text}
    (each : ∀ item ∈ items, ∀ within, mark :: within <:+ form item → Starts (mark :: within))
    (here : mark :: after <:+ items.flatMap form) : Starts (mark :: after) := by
  induction items with
  | nil => cases List.suffix_nil.mp here
  | cons item items ih =>
      have later : mark :: after <:+ items.flatMap form → Starts (mark :: after) :=
        ih fun other member => each other (List.mem_cons_of_mem _ member)
      rw [List.flatMap_cons] at here
      rcases List.suffix_or_suffix_of_suffix here (List.suffix_append _ _) with inRest | ⟨first, whole⟩
      · exact later inRest
      · cases first with
        | nil => exact later (whole ▸ List.suffix_refl _)
        | cons start within =>
            rw [← whole, List.suffix_append_self_iff] at here
            obtain ⟨rfl, rfl⟩ := List.cons.inj whole
            exact extend _ (each item List.mem_cons_self within here)

end Stencil.Escape

import Stencil.Escape.Script
import Stencil.Proofs.Escape.Reading
import Stencil.Proofs.Numeral.Digits

/-!
# String literals

Text for the string literal of a script is read as UTF-16 units: an escape of two or of four hexadecimal
digits stands for one unit, and any other character for its own. Pairs of surrogates among the units are
combined, and the units are the text again.
-/

set_option autoImplicit false

namespace Stencil.Escape

/-! ## UTF-16 -/

/-- The text of some UTF-16 units. A unit of the upper half of a pair is followed by one of the lower
half, and neither occurs alone. `upper` is a unit of the upper half that has been read last. -/
def ofUtf16? : (upper : Option Nat) → List Nat → Option Text
  | none, [] => some []
  | some _, [] => none
  | none, unit :: rest =>
      if 0xD800 ≤ unit ∧ unit < 0xDC00 then ofUtf16? (some unit) rest
      else if unit < 0xD800 ∨ 0xE000 ≤ unit ∧ unit < 0x10000 then
        (ofUtf16? none rest).map (Char.ofNat unit :: ·)
      else none
  | some upper, unit :: rest =>
      if 0xDC00 ≤ unit ∧ unit < 0xE000 then
        (ofUtf16? none rest).map
          (Char.ofNat (0x10000 + (upper - 0xD800) * 0x400 + (unit - 0xDC00)) :: ·)
      else none

theorem ofUtf16?_utf16Units_append (character : Char) (rest : List Nat) :
    ofUtf16? none (utf16Units character ++ rest) = (ofUtf16? none rest).map (character :: ·) := by
  have valid : character.toNat < 0xD800 ∨ 0xDFFF < character.toNat ∧ character.toNat < 0x110000 :=
    character.valid
  by_cases single : character.toNat < 0x10000
  · rw [utf16Units, if_pos single, List.singleton_append, ofUtf16?, if_neg (by omega),
      if_pos (by omega), Char.ofNat_toNat]
  · have combined : 0x10000 + (0xD800 + (character.toNat - 0x10000) / 0x400 - 0xD800) * 0x400 +
        (0xDC00 + (character.toNat - 0x10000) % 0x400 - 0xDC00) = character.toNat := by omega
    rw [utf16Units, if_neg single, List.cons_append, List.singleton_append, ofUtf16?,
      if_pos (by omega), ofUtf16?, if_pos (by omega), combined, Char.ofNat_toNat]

theorem ofUtf16?_flatMap_utf16Units (text : Text) :
    ofUtf16? none (text.flatMap utf16Units) = some text := by
  induction text with
  | nil => rfl
  | cons head rest ih => rw [List.flatMap_cons, ofUtf16?_utf16Units_append, ih, Option.map_some]

theorem utf16Units_lt {character : Char} {unit : Nat} (member : unit ∈ utf16Units character) :
    unit < 0x10000 := by
  have valid : character.toNat < 0xD800 ∨ 0xDFFF < character.toNat ∧ character.toNat < 0x110000 :=
    character.valid
  rw [utf16Units] at member
  split at member
  · next single => rwa [List.mem_singleton.mp member]
  · simp only [List.mem_cons, List.not_mem_nil, or_false] at member
    omega

/-! ## Escapes -/

/-- The letters after a backslash, with the number of digits that follow them. -/
def scriptEscapes : List (Char × Nat) := [('x', 2), ('u', 4)]

def unitForm (letter : Char) (count unit : Nat) : Text :=
  '\\' :: letter :: Numeral.hexDigits count unit

/-- The unit of an escape at the start of a text, with the text after it. -/
def scriptEscape? : Text → Option (List Nat × Text)
  | '\\' :: letter :: rest =>
      (scriptEscapes.lookup letter).bind fun count =>
        if count ≤ rest.length then
          (Numeral.hexadecimal? (rest.take count)).map fun unit => ([unit], rest.drop count)
        else none
  | _ => none

/-- Reads the inside of a string literal as UTF-16 units. -/
def scriptReader : Reader Nat where
  escape? := scriptEscape?
  shorter := by
    intro text rest units found
    fun_cases scriptEscape? text with
    | case1 letter after =>
        simp only [scriptEscape?, Option.bind_eq_some_iff] at found
        obtain ⟨count, -, found⟩ := found
        split at found
        · obtain ⟨unit, -, same⟩ := Option.map_eq_some_iff.mp found
          cases same
          simp only [List.length_drop, List.length_cons]
          omega
        · cases found
    | case2 => simp_all [scriptEscape?]
  plain := utf16Units

theorem reads_unitForm {letter : Char} {count unit : Nat}
    (known : scriptEscapes.lookup letter = some count) (fits : unit < 16 ^ count) :
    scriptReader.Reads (unitForm letter count unit) [unit] := by
  apply Reader.reads_escape
  intro rest
  have long : count ≤ (Numeral.hexDigits count unit ++ rest).length := by
    rw [List.length_append, Numeral.length_hexDigits]
    exact Nat.le_add_right count _
  have digits : (Numeral.hexDigits count unit ++ rest).take count = Numeral.hexDigits count unit :=
    List.take_left' (Numeral.length_hexDigits count unit)
  have after : (Numeral.hexDigits count unit ++ rest).drop count = rest :=
    List.drop_left' (Numeral.length_hexDigits count unit)
  change scriptEscape? ('\\' :: letter :: (Numeral.hexDigits count unit ++ rest)) = _
  rw [scriptEscape?, known, Option.bind_some, if_pos long, digits, after,
    Numeral.hexadecimal?_hexDigits, Nat.mod_eq_of_lt fits, Option.map_some]

/-- A character stands for itself, or its units are written in one of the two ways. -/
theorem scriptForm_cases (character : Char) :
    scriptForm character = [character] ∧ (isAlphanumeric character = true ∨ character = ' ') ∨
      ∃ escape ∈ scriptEscapes,
        scriptForm character = (utf16Units character).flatMap (unitForm escape.1 escape.2) ∧
          ∀ unit ∈ utf16Units character, unit < 16 ^ escape.2 := by
  rw [scriptForm]
  split
  · next plain => exact .inl ⟨rfl, by simpa using plain⟩
  · right
    split
    · next ascii =>
        have single : utf16Units character = [character.toNat] := by
          rw [utf16Units, if_pos (by omega)]
        refine ⟨('x', 2), by decide, ?_, ?_⟩
        · rw [single, List.flatMap_singleton]
          rfl
        · intro unit member
          rw [single, List.mem_singleton] at member
          rw [member]
          exact Nat.lt_trans ascii (by decide)
    · exact ⟨('u', 4), by decide, rfl, fun unit => utf16Units_lt⟩

theorem isAlphanumeric_backslash : isAlphanumeric '\\' = false := by decide +kernel

theorem ne_backslash_of_plain {character : Char}
    (plain : isAlphanumeric character = true ∨ character = ' ') : character ≠ '\\' := by
  rintro rfl
  rw [isAlphanumeric_backslash] at plain
  simp at plain

theorem scriptEscape?_of_ne {character : Char} (different : character ≠ '\\') (rest : Text) :
    scriptEscape? (character :: rest) = none := by
  rw [scriptEscape?]
  intro letter after same
  exact different (List.cons.inj same).1

theorem reads_scriptForm (character : Char) :
    scriptReader.Reads (scriptForm character) (utf16Units character) := by
  rcases scriptForm_cases character with ⟨itself, plain⟩ | ⟨escape, member, written, fits⟩
  · rw [itself]
    exact Reader.reads_plain (scriptEscape?_of_ne (ne_backslash_of_plain plain))
  · have known : ∀ escape ∈ scriptEscapes, scriptEscapes.lookup escape.1 = some escape.2 := by decide
    rw [written]
    exact Reader.reads_flatMap_self fun unit inside =>
      reads_unitForm (known escape member) (fits unit inside)

theorem read_script (text : Text) : ofUtf16? none (scriptReader.read (script text)) = some text := by
  have units : scriptReader.Reads (script text) (text.flatMap utf16Units) :=
    Reader.reads_flatMap fun character _ => reads_scriptForm character
  rw [units.read_eq, ofUtf16?_flatMap_utf16Units]

/-! ## The written characters -/

/-- A text that starts with an escape in small digits. -/
def StartsUnit (text : Text) : Prop :=
  ∃ escape ∈ scriptEscapes, ∃ digits rest, text = '\\' :: escape.1 :: (digits ++ rest) ∧
    digits.length = escape.2 ∧ ∀ digit ∈ digits, digit ∈ "0123456789abcdef".toList

theorem StartsUnit.append {text : Text} (rest : Text) :
    StartsUnit text → StartsUnit (text ++ rest) := by
  rintro ⟨escape, member, digits, after, rfl, length, small⟩
  exact ⟨escape, member, digits, after ++ rest, by simp, length, small⟩

theorem startsUnit_of_suffix_unitForm {escape : Char × Nat} (member : escape ∈ scriptEscapes)
    {unit : Nat} {within : Text} (here : '\\' :: within <:+ unitForm escape.1 escape.2 unit) :
    StartsUnit ('\\' :: within) := by
  rw [unitForm, List.suffix_cons_iff] at here
  rcases here with whole | later
  · refine ⟨escape, member, Numeral.hexDigits escape.2 unit, [], ?_, Numeral.length_hexDigits _ _,
      fun digit => Numeral.mem_of_mem_hexDigits⟩
    rw [whole, List.append_nil]
  · -- Neither the letter nor a digit is a backslash.
    rcases List.mem_cons.mp (later.subset List.mem_cons_self) with letter | digit
    · have different : ∀ escape ∈ scriptEscapes, '\\' ≠ escape.1 := by decide
      exact absurd letter (different escape member)
    · exact absurd (Numeral.mem_of_mem_hexDigits digit) (by decide)

theorem startsUnit_of_suffix_scriptForm {character : Char} {within : Text}
    (here : '\\' :: within <:+ scriptForm character) : StartsUnit ('\\' :: within) := by
  rcases scriptForm_cases character with ⟨itself, plain⟩ | ⟨escape, member, written, -⟩
  · rw [itself] at here
    have same : '\\' = character := List.mem_singleton.mp (here.subset List.mem_cons_self)
    exact absurd same.symm (ne_backslash_of_plain plain)
  · rw [written] at here
    exact starts_of_suffix_flatMap StartsUnit.append
      (fun _ _ _ => startsUnit_of_suffix_unitForm member) here

theorem mem_scriptForm {character written : Char} (member : written ∈ scriptForm character) :
    isAlphanumeric written = true ∨ written = ' ' ∨ written = '\\' := by
  rcases scriptForm_cases character with ⟨itself, plain⟩ | ⟨escape, among, form, -⟩
  · rw [itself, List.mem_singleton] at member
    subst member
    exact plain.imp_right .inl
  · rw [form] at member
    obtain ⟨unit, -, inside⟩ := List.mem_flatMap.mp member
    rcases List.mem_cons.mp inside with backslash | later
    · exact .inr (.inr backslash)
    · left
      rcases List.mem_cons.mp later with rfl | digit
      · have letters : ∀ escape ∈ scriptEscapes, isAlphanumeric escape.1 = true := by decide +kernel
        exact letters escape among
      · have digits : ∀ digit ∈ "0123456789abcdef".toList, isAlphanumeric digit = true :=
          forall_mem_of_all (by decide +kernel)
        exact digits written (Numeral.mem_of_mem_hexDigits digit)

/-- Text for a string literal has only letters, digits, spaces and backslashes, each backslash starts an
escape of two or four small hexadecimal digits, and the literal stands for the text. -/
theorem script_safe_and_reversible (text : Text) :
    (∀ written ∈ script text,
        isAlphanumeric written = true ∨ written = ' ' ∨ written = '\\') ∧
      (∀ after, '\\' :: after <:+ script text → StartsUnit ('\\' :: after)) ∧
        ofUtf16? none (scriptReader.read (script text)) = some text := by
  refine ⟨?_, ?_, read_script text⟩
  · intro written member
    obtain ⟨character, -, inside⟩ := List.mem_flatMap.mp member
    exact mem_scriptForm inside
  · intro after here
    exact starts_of_suffix_flatMap StartsUnit.append
      (fun _ _ _ => startsUnit_of_suffix_scriptForm) here

end Stencil.Escape

import Stencil.Escape.Url
import Stencil.Proofs.Escape.Reading
import Stencil.Proofs.Numeral.Digits

/-!
# Fields of a form

A text is written as the field of a form and read as bytes: a plus sign stands for a space, a percent sign
and two hexadecimal digits for a byte, and any other character for its own bytes. The bytes are the UTF-8
form of the text.
-/

set_option autoImplicit false

namespace Stencil.Escape

/-! ## Reading -/

/-- The byte of an escape at the start of a text, with the text after it. -/
def formEscape? : Text → Option (List UInt8 × Text)
  | '%' :: first :: second :: rest =>
      (Numeral.hexadecimal? [first, second]).map fun byte => ([UInt8.ofNat byte], rest)
  | _ => none

/-- Reads the field of a form as bytes. -/
def formReader : Reader UInt8 where
  escape? := formEscape?
  shorter := by
    intro text rest units found
    fun_cases formEscape? text with
    | case1 first second after =>
        obtain ⟨byte, -, same⟩ := Option.map_eq_some_iff.mp found
        cases same
        simp only [List.length_cons]
        omega
    | case2 => simp_all [formEscape?]
  plain character := if character = '+' then [0x20] else String.utf8EncodeChar character

/-- The text of the field of a form, if its bytes are the UTF-8 form of one. -/
def formText? (written : Text) : Option Text :=
  (formReader.read written).toByteArray.utf8Decode?.map Array.toList

/-- The characters that stand for themselves in the field of a form. -/
def IsFormCharacter (character : Char) : Prop :=
  character.isAlphanum = true ∨ character ∈ ['-', '_', '.']

/-- A byte is written as its own character, as a plus sign or by two digits. -/
theorem urlForm_cases (byte : UInt8) :
    (∃ character, urlForm byte = [character] ∧ IsFormCharacter character ∧
        String.utf8EncodeChar character = [byte]) ∨
      urlForm byte = ['+'] ∧ byte = 0x20 ∨
        urlForm byte =
          ['%', capitalHexDigit (byte.toNat / 16), capitalHexDigit (byte.toNat % 16)] := by
  have small : byte.toNat < 256 := byte.toNat_lt
  have valid : byte.toNat.isValidChar := .inl (by omega)
  have itself : (Char.ofNat byte.toNat).val.toNat = byte.toNat := by
    rw [Char.ofNat, dif_pos valid]
    rfl
  rw [urlForm]
  split
  · next plain =>
      rw [Bool.and_eq_true, Bool.or_eq_true, decide_eq_true_eq, decide_eq_true_eq] at plain
      -- The UTF-8 form of an ASCII character is its code point.
      refine .inl ⟨_, rfl, plain.2, ?_⟩
      rw [String.utf8EncodeChar, itself, if_pos (Nat.le_of_lt_succ plain.1), UInt8.ofNat_toNat]
  · split
    · next space =>
        refine .inr (.inl ⟨rfl, UInt8.toNat_inj.mp ?_⟩)
        rw [← itself, space]
        rfl
    · exact .inr (.inr rfl)

theorem ne_of_isFormCharacter {character : Char} (plain : IsFormCharacter character) :
    character ≠ '%' ∧ character ≠ '+' ∧ character ≠ '&' ∧ character ≠ '=' := by
  refine ⟨?_, ?_, ?_, ?_⟩ <;>
    · rintro rfl
      rw [IsFormCharacter] at plain
      exact absurd plain (by decide)

theorem formEscape?_of_ne {character : Char} (different : character ≠ '%') (rest : Text) :
    formEscape? (character :: rest) = none := by
  rw [formEscape?]
  intro first second after same
  exact different (List.cons.inj same).1

def capitalHexDigits : Text := "0123456789ABCDEF".toList

theorem capitalHexDigit_mem : ∀ digit < 16, capitalHexDigit digit ∈ capitalHexDigits := by decide

theorem hexDigit?_capitalHexDigit :
    ∀ digit < 16, Json.hexDigit? (capitalHexDigit digit) = some digit := by
  decide

theorem hexadecimal?_capitalHexDigits {byte : Nat} (small : byte < 256) :
    Numeral.hexadecimal? [capitalHexDigit (byte / 16), capitalHexDigit (byte % 16)] = some byte := by
  have high := hexDigit?_capitalHexDigit (byte / 16) (by omega)
  have low := hexDigit?_capitalHexDigit (byte % 16) (Nat.mod_lt _ (by decide))
  simp only [Numeral.hexadecimal?, List.foldlM_cons, List.foldlM_nil, high, low, Option.map_some,
    Option.bind_eq_bind, Option.bind_some, Option.pure_def, Option.some.injEq]
  omega

theorem reads_urlForm (byte : UInt8) : formReader.Reads (urlForm byte) [byte] := by
  rcases urlForm_cases byte with ⟨character, written, plain, encoded⟩ | ⟨written, rfl⟩ | written
  · obtain ⟨notPercent, notPlus, -⟩ := ne_of_isFormCharacter plain
    have units : formReader.plain character = [byte] := (if_neg notPlus).trans encoded
    rw [written, ← units]
    exact Reader.reads_plain (formEscape?_of_ne notPercent)
  · have notPercent : '+' ≠ '%' := by decide
    rw [written]
    exact Reader.reads_plain (formEscape?_of_ne notPercent)
  · rw [written]
    apply Reader.reads_escape
    intro rest
    change formEscape? ('%' :: _ :: _ :: rest) = _
    rw [formEscape?, hexadecimal?_capitalHexDigits byte.toNat_lt, Option.map_some, UInt8.ofNat_toNat]

theorem formText?_url (text : Text) : formText? (url text) = some text := by
  have bytes : formReader.Reads (url text) (text.flatMap String.utf8EncodeChar) :=
    Reader.reads_flatMap_self fun byte _ => reads_urlForm byte
  have decoded : (text.flatMap String.utf8EncodeChar).toByteArray.utf8Decode? = some text.toArray :=
    List.utf8Decode?_utf8Encode
  rw [formText?, bytes.read_eq, decoded, Option.map_some]

/-! ## The written characters -/

/-- A text that starts with a percent sign and two capital hexadecimal digits. -/
def StartsByte (text : Text) : Prop :=
  ∃ first ∈ capitalHexDigits, ∃ second ∈ capitalHexDigits, ∃ rest, text = '%' :: first :: second :: rest

theorem StartsByte.append {text : Text} (rest : Text) : StartsByte text → StartsByte (text ++ rest) := by
  rintro ⟨first, firstDigit, second, secondDigit, after, rfl⟩
  exact ⟨first, firstDigit, second, secondDigit, after ++ rest, rfl⟩

theorem isFormCharacter_of_mem_capitalHexDigits :
    ∀ digit ∈ capitalHexDigits, IsFormCharacter digit := by
  unfold IsFormCharacter
  exact forall_mem_of_all (by decide)

theorem digits_of_byte (byte : UInt8) :
    capitalHexDigit (byte.toNat / 16) ∈ capitalHexDigits ∧
      capitalHexDigit (byte.toNat % 16) ∈ capitalHexDigits := by
  have small : byte.toNat < 256 := byte.toNat_lt
  exact ⟨capitalHexDigit_mem _ (by omega), capitalHexDigit_mem _ (Nat.mod_lt _ (by decide))⟩

theorem isFormCharacter_of_mem_digits {byte : UInt8} {digit : Char}
    (member : digit ∈ [capitalHexDigit (byte.toNat / 16), capitalHexDigit (byte.toNat % 16)]) :
    IsFormCharacter digit := by
  obtain ⟨high, low⟩ := digits_of_byte byte
  rcases List.mem_cons.mp member with rfl | last
  · exact isFormCharacter_of_mem_capitalHexDigits _ high
  · rw [List.mem_singleton.mp last]
    exact isFormCharacter_of_mem_capitalHexDigits _ low

theorem mem_urlForm {byte : UInt8} {written : Char} (member : written ∈ urlForm byte) :
    IsFormCharacter written ∨ written = '+' ∨ written = '%' := by
  rcases urlForm_cases byte with ⟨character, form, plain, -⟩ | ⟨form, -⟩ | form
  · rw [form, List.mem_singleton] at member
    exact .inl (member ▸ plain)
  · rw [form, List.mem_singleton] at member
    exact .inr (.inl member)
  · rw [form] at member
    rcases List.mem_cons.mp member with percent | digit
    · exact .inr (.inr percent)
    · exact .inl (isFormCharacter_of_mem_digits digit)

theorem mem_url {text : Text} {written : Char} (member : written ∈ url text) :
    IsFormCharacter written ∨ written = '+' ∨ written = '%' := by
  obtain ⟨byte, -, inside⟩ := List.mem_flatMap.mp member
  exact mem_urlForm inside

theorem startsByte_of_suffix_urlForm {byte : UInt8} {within : Text}
    (here : '%' :: within <:+ urlForm byte) : StartsByte ('%' :: within) := by
  rcases urlForm_cases byte with ⟨character, form, plain, -⟩ | ⟨form, -⟩ | form
  · rw [form] at here
    have same : '%' = character := List.mem_singleton.mp (here.subset List.mem_cons_self)
    exact absurd same.symm (ne_of_isFormCharacter plain).1
  · rw [form] at here
    exact absurd (here.subset List.mem_cons_self) (by decide)
  · obtain ⟨high, low⟩ := digits_of_byte byte
    rw [form, List.suffix_cons_iff] at here
    rcases here with whole | later
    · exact ⟨_, high, _, low, [], whole⟩
    · -- Neither digit is a percent sign.
      have digit : IsFormCharacter '%' :=
        isFormCharacter_of_mem_digits (later.subset List.mem_cons_self)
      exact absurd rfl (ne_of_isFormCharacter digit).1

theorem startsByte_of_suffix_url {text after : Text} (here : '%' :: after <:+ url text) :
    StartsByte ('%' :: after) :=
  starts_of_suffix_flatMap StartsByte.append (fun _ _ _ => startsByte_of_suffix_urlForm) here

end Stencil.Escape

import Stencil.Json.Number

/-!
# Reading JSON

A document is first cut into lexemes: marks, quoted texts and bare words. A machine with a stack of
open arrays and objects then takes the lexemes one by one. At most 127 arrays and objects may be
open at a time.
-/

set_option autoImplicit false

namespace Stencil.Json

/-! ## Lexemes -/

/-- A piece of a written document. -/
inductive Lexeme where
  /-- One of the marks that group and separate. -/
  | mark (mark : Char)
  /-- A quoted text with its escapes, without the quotes. -/
  | quoted (raw : Text)
  | word (word : Text)
  deriving DecidableEq

/-- Where the cutting stands. Kept characters are reversed. -/
inductive Cursor where
  /-- Outside of quotes, after the characters of an unfinished word. -/
  | bare (word : Text)
  /-- Inside of quotes, and whether the next character is escaped. -/
  | inQuotes (raw : Text) (escaped : Bool)

def withWord (word : Text) (lexemes : List Lexeme) : List Lexeme :=
  if word = [] then lexemes else .word word.reverse :: lexemes

/-- Cuts a document into lexemes. There are none if a quoted text has no end. -/
def lexemes? : Cursor → Text → Option (List Lexeme)
  | .bare word, [] => some (withWord word [])
  | .bare word, head :: rest =>
      if head = '"' then (lexemes? (.inQuotes [] false) rest).map (withWord word)
      else if head ∈ ['[', ']', '{', '}', ':', ','] then
        (lexemes? (.bare []) rest).map fun lexemes => withWord word (.mark head :: lexemes)
      else if head.isWhitespace then (lexemes? (.bare []) rest).map (withWord word)
      else lexemes? (.bare (head :: word)) rest
  | .inQuotes _ _, [] => none
  | .inQuotes raw true, head :: rest => lexemes? (.inQuotes (head :: raw) false) rest
  | .inQuotes raw false, head :: rest =>
      if head = '"' then (lexemes? (.bare []) rest).map (.quoted raw.reverse :: ·)
      else lexemes? (.inQuotes (head :: raw) (head = '\\')) rest

/-! ## Quoted texts -/

def hexDigit? (digit : Char) : Option Nat :=
  if digit.isDigit then some (digit.toNat - '0'.toNat)
  else if 'a'.toNat ≤ digit.toNat ∧ digit.toNat ≤ 'f'.toNat then some (digit.toNat - 'a'.toNat + 10)
  else if 'A'.toNat ≤ digit.toNat ∧ digit.toNat ≤ 'F'.toNat then some (digit.toNat - 'A'.toNat + 10)
  else none

/-- The UTF-16 unit written by four hexadecimal digits. -/
def unit? (first second third fourth : Char) : Option Nat := do
  let first ← hexDigit? first
  let second ← hexDigit? second
  let third ← hexDigit? third
  let fourth ← hexDigit? fourth
  return ((first * 16 + second) * 16 + third) * 16 + fourth

def escaped? (letter : Char) : Option Char :=
  if letter ∈ ['"', '\\', '/'] then some letter
  else if letter = 'b' then some '\x08'
  else if letter = 'f' then some '\x0c'
  else if letter = 'n' then some '\n'
  else if letter = 'r' then some '\r'
  else if letter = 't' then some '\t'
  else none

/-- The text that a quoted text stands for. A UTF-16 unit of the upper half of a pair is followed by
one of the lower half, and neither occurs alone. -/
def unescape? : Text → Option Text
  | [] => some []
  | '\\' :: 'u' :: a :: b :: c :: d :: '\\' :: 'u' :: e :: f :: g :: h :: rest =>
      (unit? a b c d).bind fun high =>
        if 0xD800 ≤ high ∧ high < 0xDC00 then
          (unit? e f g h).bind fun low =>
            if 0xDC00 ≤ low ∧ low < 0xE000 then
              (unescape? rest).map
                (Char.ofNat (0x10000 + (high - 0xD800) * 0x400 + (low - 0xDC00)) :: ·)
            else none
        else if 0xDC00 ≤ high ∧ high < 0xE000 then none
        else (unescape? ('\\' :: 'u' :: e :: f :: g :: h :: rest)).map (Char.ofNat high :: ·)
  | '\\' :: 'u' :: a :: b :: c :: d :: rest =>
      (unit? a b c d).bind fun unit =>
        if 0xD800 ≤ unit ∧ unit < 0xE000 then none
        else (unescape? rest).map (Char.ofNat unit :: ·)
  | '\\' :: letter :: rest =>
      (escaped? letter).bind fun character => (unescape? rest).map (character :: ·)
  | head :: rest =>
      if head.toNat < 0x20 ∨ head = '\\' then none else (unescape? rest).map (head :: ·)

/-! ## Documents -/

/-- An array or object whose end has not been read. Items and members are reversed. -/
inductive Frame where
  | array (items : List Json)
  /-- An open object, and the name whose member is being read. -/
  | object (members : List (Text × Json)) (name : Option Text)

/-- What may come next. -/
inductive Expecting where
  | document
  /-- An item, or the end of an array that is still empty. -/
  | firstItem
  | name
  /-- A name, or the end of an object that is still empty. -/
  | firstName
  /-- The colon after a name. -/
  | colon
  /-- A comma or the end of an array or object. -/
  | separator
  deriving DecidableEq

/-- Where the reading stands. -/
inductive State where
  /-- Inside of a document, with the open arrays and objects, innermost first. -/
  | inside (expecting : Expecting) (frames : List Frame)
  | complete (document : Json)

/-- The largest number of open arrays and objects. -/
def maxFrames : Nat := 127

def deliver (document : Json) : List Frame → State
  | [] => .complete document
  | .array items :: frames => .inside .separator (.array (document :: items) :: frames)
  | .object members name :: frames =>
      .inside .separator (.object ((name.getD [], document) :: members) none :: frames)

def openFrame? (expecting : Expecting) (frame : Frame) (frames : List Frame) : Option State :=
  if frames.length < maxFrames then some (.inside expecting (frame :: frames)) else none

def word? (word : Text) : Option Json :=
  if word = "null".toList then some .null
  else if word = "true".toList then some (.bool true)
  else if word = "false".toList then some (.bool false)
  else number? word

def step? : State → Lexeme → Option State
  | .complete _, _ => none
  | .inside expecting frames, lexeme =>
      if expecting = .document ∨ expecting = .firstItem then
        match lexeme, frames with
        | .mark '[', frames => openFrame? .firstItem (.array []) frames
        | .mark '{', frames => openFrame? .firstName (.object [] none) frames
        | .mark ']', .array [] :: frames =>
            if expecting = .firstItem then some (deliver (.array []) frames) else none
        | .mark _, _ => none
        | .quoted raw, frames => (unescape? raw).map fun text => deliver (.string text) frames
        | .word word, frames => (word? word).map (deliver · frames)
      else
        match expecting, lexeme, frames with
        | .separator, .mark ',', .array items :: frames =>
            some (.inside .document (.array items :: frames))
        | .separator, .mark ',', .object members name :: frames =>
            some (.inside .name (.object members name :: frames))
        | .separator, .mark ']', .array items :: frames =>
            some (deliver (.array items.reverse) frames)
        | .separator, .mark '}', .object members _ :: frames =>
            some (deliver (.object members.reverse) frames)
        | .firstName, .mark '}', .object members _ :: frames =>
            some (deliver (.object members.reverse) frames)
        | .name, .quoted raw, .object members _ :: frames
        | .firstName, .quoted raw, .object members _ :: frames =>
            (unescape? raw).map fun name => .inside .colon (.object members (some name) :: frames)
        | .colon, .mark ':', frames => some (.inside .document frames)
        | _, _, _ => none

def read? (text : Text) : Option Json := do
  let lexemes ← lexemes? (.bare []) text
  match ← lexemes.foldlM step? (.inside .document []) with
  | .complete document => some document
  | .inside _ _ => none

end Stencil.Json

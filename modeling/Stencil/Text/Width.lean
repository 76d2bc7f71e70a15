import Stencil.Text.Basic
import Stencil.Text.Emoji
import Stencil.Text.Ligature

/-!
# Columns of texts

The number of columns that a line of text fills when it is shown in a fixed-width font. Most
characters fill their own columns, but some sequences are shown as one sign: emoji that are built of
several characters, and ligatures of some scripts. Variation selectors choose between forms of
different widths.

A line is measured from its end. What has been passed is remembered as far as it can change the
columns of the character before it.
-/

set_option autoImplicit false

namespace Stencil

/-- How a text that is measured from its end goes on, as far as a character before it may join it. -/
inductive Joint where
  | none
  | alef
  /-- A Hebrew lamed, and whether a joiner stands before it. -/
  | lamed (joined : Bool)
  /-- A Buginese ya, and whether a joiner stands before it. -/
  | ya (joined : Bool)
  /-- A Buginese vowel sign with a joiner and a ya. -/
  | vowelYa
  /-- A consonant of Tifinagh, and whether a joiner stands before it. -/
  | tifinagh (joined : Bool)
  /-- The joiner of Tifinagh with a consonant. -/
  | tifinaghPair
  /-- The second half of a tone letter of Lisu. -/
  | lisuTone
  /-- An Old Turkic letter, and whether a joiner stands before it. -/
  | orkhon (joined : Bool)
  /-- A letter of Khmer that may stand under another one. -/
  | subjoined
  /-- One stroke of a vowel sign of Kirat Rai. -/
  | stroke
  | twoStrokes
  | picture
  | skinTone
  /-- Letters of flags, and whether there is more than one. -/
  | flagLetters (several : Bool)
  | joinedPicture
  /-- The frame of a keycap before a joiner and a picture. -/
  | keycap
  /-- A letter of a flag before a joiner and a picture. -/
  | joinedFlagLetter
  /-- Letters of flags before a joiner and a picture, and whether their number is even. -/
  | joinedFlagLetters (even : Bool)
  /-- The last letters and digits of a tag before a joiner and a picture. -/
  | tag (letters digits : Nat)
  deriving DecidableEq, Repr, Inhabited

/-- The variation selectors that change widths. -/
inductive Selector where
  | text
  | picture
  | wide
  deriving DecidableEq, Repr, Inhabited

def Selector.ofChar? (character : Char) : Option Selector :=
  if character = '\uFE0E' then some .text
  else if character = '\uFE0F' then some .picture
  else if character = '\uFE01' then some .wide
  else none

/-- The selectors that a text begins with, as far as they still count. -/
structure Selectors where
  text : Bool
  picture : Bool
  wide : Bool
  deriving DecidableEq, Repr, Inhabited

namespace Selectors

def none : Selectors := ⟨false, false, false⟩

def insert (selectors : Selectors) : Selector → Selectors
  | .text => { selectors with text := true }
  | .picture => { selectors with picture := true }
  | .wide => { selectors with wide := true }

end Selectors

/-- The joiner of letters and of pictures. -/
def joiner : Char := '\u200D'

/-- Whether a character is a quotation mark with a wide form. -/
def isWideningQuote (character : Char) : Bool :=
  character ∈ ['\u2018', '\u2019', '\u201C', '\u201D']

namespace Joint

/-- Whether a joint belongs to a ligature of letters. Selectors do not break it. -/
def isLigature : Joint → Bool
  | alef | lamed _ | ya _ | vowelYa | tifinagh _ | tifinaghPair | lisuTone | orkhon _ | subjoined =>
      true
  | _ => false

/-- Whether a joint is a joiner or the frame of a keycap, before which one picture joins another. -/
def continuesPicture (joint : Joint) : Bool := joint = joinedPicture || joint = keycap

/-- A ligature with a joiner before it. -/
def join : Joint → Joint
  | lamed _ => lamed true
  | ya _ => ya true
  | tifinagh _ => tifinagh true
  | orkhon _ => orkhon true
  | joint => joint

/-- What a character by itself is to the character before it. -/
def ofChar (character : Char) : Joint :=
  if character.toNat ≤ 0xA0 then none
  else if character = '\u05DC' then lamed false
  else if isAlef character then alef
  else if isSubjoinedKhmer character then subjoined
  else if character = '\u1A10' then ya false
  else if isTifinaghConsonant character then tifinagh false
  else if isLisuToneEnd character then lisuTone
  else if character = Char.ofNat 0x10C03 then orkhon false
  else if character = Char.ofNat 0x16D67 then stroke
  else if character = Char.ofNat 0x16D68 then twoStrokes
  else if isFlagLetter character then flagLetters false
  else if isSkinTone character then skinTone
  else if isPicture character then picture
  else none

/-- The columns that a character adds, and the joint that it makes, where it joins what follows. -/
def attach? : Joint → Char → Option (Int × Joint)
  | none, _ => Option.none
  | alef, character =>
      if isLam character then some (0, none)
      else if isJoinTransparent character then some (0, alef)
      else Option.none
  | lamed joined, character =>
      if joined ∧ character = '\u05D0' then some (0, none) else Option.none
  | ya joined, character =>
      if joined ∧ character = '\u1A17' then some (0, vowelYa) else Option.none
  | vowelYa, character => if character = '\u1A15' then some (0, none) else Option.none
  | tifinagh joined, character =>
      if character = '\u2D7F' then some (1, tifinaghPair)
      else if joined ∧ isTifinaghConsonant character then some (0, none)
      else Option.none
  | tifinaghPair, character =>
      if isTifinaghConsonant character then some (-1, none) else Option.none
  | lisuTone, character => if isLisuToneStart character then some (0, none) else Option.none
  | orkhon joined, character =>
      if joined ∧ character = Char.ofNat 0x10C32 then some (0, none) else Option.none
  | subjoined, character => if character = '\u17D2' then some (-1, none) else Option.none
  | stroke, character =>
      if character = Char.ofNat 0x16D63 ∨ character = Char.ofNat 0x16D69 then some (0, none)
      else if character = Char.ofNat 0x16D67 then some (0, twoStrokes)
      else if character = Char.ofNat 0x16D68 then some (1, stroke)
      else Option.none
  | twoStrokes, character =>
      if character = Char.ofNat 0x16D63 then some (0, none) else Option.none
  | picture, character => if character = joiner then some (0, joinedPicture) else Option.none
  | skinTone, character =>
      if takesSkinTone character then some (0, picture)
      else if character = joiner then some (0, joinedPicture)
      else Option.none
  | flagLetters several, character =>
      if isFlagLetter character then some (1, flagLetters true)
      else if several ∧ character = joiner then some (0, joinedPicture)
      else Option.none
  | joinedPicture, character =>
      if character = '\u20E3' then some (0, keycap)
      else if isFlagLetter character then some (1, joinedFlagLetter)
      else if isSkinTone character then some (0, skinTone)
      else if character = Char.ofNat 0xE007F then some (0, tag 0 0)
      else if isPicture character then some (0, picture)
      else Option.none
  | keycap, _ => Option.none
  | joinedFlagLetter, character =>
      if isFlagLetter character then some (-1, joinedFlagLetters true) else Option.none
  | joinedFlagLetters even, character =>
      if isFlagLetter character then
        some (if even then 3 else -1, joinedFlagLetters (!even))
      else if character = joiner then some (0, joinedPicture)
      else Option.none
  | tag letters digits, character =>
      if isTagLetter character ∧ digits = 0 ∧ letters < 6 then some (0, tag (letters + 1) 0)
      else if isTagDigit character ∧ digits < 3 ∧ letters ≤ 4 then some (0, tag letters (digits + 1))
      else if character = Char.ofNat 0x1F3F4 ∧ (digits = 3 ∨ (digits = 0 ∧ 3 ≤ letters)) then
        some (0, picture)
      else Option.none

end Joint

/-- What is remembered of a text that is measured from its end. -/
structure Passed where
  joint : Joint
  selectors : Selectors
  deriving DecidableEq, Repr, Inhabited

namespace Passed

/-- Nothing that changes the columns of a character before it. -/
def blank : Passed := ⟨.none, .none⟩

/-- A joint without selectors before it. -/
def ofJoint (joint : Joint) : Passed := ⟨joint, .none⟩

/-- A selector before a text. Ligatures gather the selectors before them, and a picture that goes on
keeps the selector that asks for a picture. Anything else is forgotten. -/
def select (passed : Passed) (selector : Selector) : Passed :=
  if passed.joint.isLigature then ⟨passed.joint, passed.selectors.insert selector⟩
  else if selector = .picture && passed.joint.continuesPicture then
    ⟨passed.joint, Selectors.none.insert .picture⟩
  else ⟨.none, Selectors.none.insert selector⟩

/-- What is left when the selector that asks for a picture meets a character without one. -/
def dropPicture (passed : Passed) : Passed :=
  if passed.joint.isLigature then
    ⟨passed.joint, { passed.selectors with picture := false }⟩
  else blank

/-- The columns of a character that is no selector, when no selector counts for it. -/
def plain (joint : Joint) (character : Char) : Int × Passed :=
  if character.toNat ≤ 0xA0 then (1, blank)
  else if joint.isLigature && joint != .alef && character = joiner then (0, ofJoint joint.join)
  else if joint.isLigature && joint != .alef && isLigatureTransparent character then
    (0, ofJoint joint)
  else
    match joint.attach? character with
    | some (added, joint) => (added, ofJoint joint)
    | none => (columns character, ofJoint (.ofChar character))

/-- The columns of a character when it is not made a picture. -/
def unpictured (passed : Passed) (character : Char) : Int × Passed :=
  match Selector.ofChar? character with
  | some selector => (0, passed.select selector)
  | none =>
      if passed.selectors.text && hasNarrowForm character then (1, blank)
      else if passed.selectors.wide && isWideningQuote character then (2, blank)
      else plain passed.joint character

/-- The columns that a character adds before a text, and what is remembered of both. -/
def before (passed : Passed) (character : Char) : Int × Passed :=
  if passed.selectors.picture then
    if hasPictureForm character then
      (if passed.joint.continuesPicture then 0 else 2, ofJoint .picture)
    else passed.dropPicture.unpictured character
  else passed.unpictured character

end Passed

namespace Text

def width (line : Text) : Nat :=
  let measured := line.foldr
    (fun character (measured : Int × Passed) =>
      let (added, passed) := measured.2.before character
      (measured.1 + added, passed))
    (0, .blank)
  measured.1.toNat

end Text

end Stencil

import Stencil.Escape.Basic
import Stencil.Numeral.Hexadecimal
import Stencil.Text.Alphanumeric

/-!
# String literals of scripts

Letters, digits and spaces stand for themselves. Any other character of ASCII is written by two
hexadecimal digits, and any other character at all by four for each of its UTF-16 units.
-/

set_option autoImplicit false

namespace Stencil.Escape

def utf16Units (character : Char) : List Nat :=
  let codePoint := character.toNat
  if codePoint < 0x10000 then [codePoint]
  else [0xD800 + (codePoint - 0x10000) / 0x400, 0xDC00 + (codePoint - 0x10000) % 0x400]

def scriptForm (character : Char) : Text :=
  if isAlphanumeric character || character == ' ' then [character]
  else if character.toNat < 0x80 then '\\' :: 'x' :: Numeral.hexDigits 2 character.toNat
  else (utf16Units character).flatMap fun unit => '\\' :: 'u' :: Numeral.hexDigits 4 unit

def script (text : Text) : Text := text.flatMap scriptForm

end Stencil.Escape

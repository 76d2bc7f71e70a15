import Stencil.Numeral.Integer
import Stencil.Tag.Basic
import Stencil.Text.Width

/-!
# Tables

Tables with a head and a frame of lines. Every column is as wide as its widest line, cells are filled
up with spaces on the right, and a cell may have several lines.
-/

set_option autoImplicit false

namespace Stencil

structure Table where
  head : List Text
  rows : List (List Text)
  deriving DecidableEq, Repr, Inhabited

namespace Table

def cellLines (cell : Text) : List Text := Text.split (· == '\n') cell

def cellWidth (cell : Text) : Nat := ((cellLines cell).map Text.width).foldl max 0

def widths (table : Table) : List Nat :=
  table.rows.foldl (fun widths row => widths.zipWith max (row.map cellWidth))
    (table.head.map cellWidth)

/-- A text with spaces after it up to a width. -/
def pad (width : Nat) (text : Text) : Text := text ++ List.replicate (width - text.width) ' '

/-- The lines of a row between the two sides of the frame. -/
def rowLines (widths : List Nat) (row : List Text) : List Text :=
  let cells := row.map cellLines
  let height := (cells.map List.length).foldl max 0
  (List.range height).map fun index =>
    let parts := cells.zipWith (fun lines width => ' ' :: (pad width (lines.getD index []) ++ [' ']))
      widths
    '│' :: (Text.join [' '] parts ++ ['│'])

/-- A horizontal line of the frame between two corners. -/
def rule (widths : List Nat) (left line right : Char) : Text :=
  let inner := widths.foldl (fun total width => total + width + 2) (widths.length - 1)
  left :: (List.replicate inner line ++ [right])

def lines (table : Table) : List Text :=
  let widths := table.widths
  rule widths '┌' '─' '┐' :: (rowLines widths table.head ++
    rule widths '╞' '═' '╡' :: (table.rows.flatMap (rowLines widths) ++
      [rule widths '└' '─' '┘']))

def ofTags (tags : List Tag) : Table where
  head := ["Kind".toList, "Keyword".toList, "Span".toList, "Content".toList]
  rows := tags.map fun tag =>
    [tag.kind.name.toList, tag.keyword,
      Numeral.ofNat tag.start ++ ('.' :: '.' :: Numeral.ofNat tag.stop), tag.path]

end Table

end Stencil

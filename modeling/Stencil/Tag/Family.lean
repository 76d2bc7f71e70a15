import Stencil.Tag.Basic

/-!
# Families of blocks

A block runs from a block tag that opens it to a block tag that closes it. The keywords of the two
tags tell what kind of block it is: a conditional, a loop or a verbatim block.
-/

set_option autoImplicit false

namespace Stencil

inductive Family where
  /-- Text that is written under a condition. -/
  | conditional
  /-- Text that is written once for each item of a collection. -/
  | loop
  /-- Text that is written as it stands. -/
  | verbatim
  deriving DecidableEq, Repr, Inhabited

namespace Family

def opener : Family → Text
  | conditional => "if".toList
  | loop => "for".toList
  | verbatim => "raw".toList

def closer : Family → Text
  | conditional => "endif".toList
  | loop => "endfor".toList
  | verbatim => "endraw".toList

def ofOpener? (keyword : Text) : Option Family :=
  [conditional, loop, verbatim].find? (·.opener = keyword)

def ofCloser? (keyword : Text) : Option Family :=
  [conditional, loop, verbatim].find? (·.closer = keyword)

/-- A keyword closes a block exactly if it is the closing keyword of that block. -/
theorem ofCloser?_eq_some_iff {keyword : Text} {family : Family} :
    ofCloser? keyword = some family ↔ keyword = family.closer := by
  constructor
  · intro closes
    have same := List.find?_some closes
    simpa using (of_decide_eq_true same).symm
  · rintro rfl
    cases family <;> decide

end Family

namespace Tag

/-- The keyword that separates the two branches of a conditional block. -/
def elseKeyword : Text := "else".toList

/-- The kind of block that a tag opens. Variable tags open none. -/
def opens? (tag : Tag) : Option Family :=
  if tag.isBlock then Family.ofOpener? tag.keyword else none

/-- The kind of block that a tag closes. Variable tags close none. -/
def closes? (tag : Tag) : Option Family :=
  if tag.isBlock then Family.ofCloser? tag.keyword else none

/-- Whether a tag separates the branches of a conditional block. -/
def isElse (tag : Tag) : Bool := tag.isBlock && tag.keyword = elseKeyword

end Tag

end Stencil

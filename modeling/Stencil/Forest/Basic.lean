import Stencil.Tag.Family

/-!
# Forests of tags

The tags of a text, with each block gathered into a group. A forest lists what stands side by side
in the order of the text: single tags, and groups that hold a forest of their own.
-/

set_option autoImplicit false

namespace Stencil

inductive Forest where
  | nil
  | tag (tag : Tag) (rest : Forest)
  /-- A block from its opening tag to its closing tag, if there is one, and what follows it. -/
  | group (family : Family) (opener : Tag) (body : Forest) (closer : Option Tag) (rest : Forest)
  deriving DecidableEq, Repr, Inhabited

/-- One block. A block without a closing tag runs to the end of the text. -/
structure Group where
  family : Family
  opener : Tag
  body : Forest
  closer : Option Tag
  deriving DecidableEq, Repr, Inhabited

namespace Forest

def append : Forest → Forest → Forest
  | nil, right => right
  | tag single rest, right => tag single (append rest right)
  | group family opener body closer rest, right =>
      group family opener body closer (append rest right)

instance : Append Forest := ⟨append⟩

/-- The first tag of each single tag and each group. -/
def firstTags : Forest → List Tag
  | nil => []
  | tag single rest => single :: firstTags rest
  | group _ opener _ _ rest => opener :: firstTags rest

/-- The groups that lie in no other group. -/
def groups : Forest → List Group
  | nil => []
  | tag _ rest => groups rest
  | group family opener body closer rest => ⟨family, opener, body, closer⟩ :: groups rest

/-- The first tag that separates branches and lies in no group. -/
def else? : Forest → Option Tag
  | nil => none
  | tag single rest => if single.isElse then some single else else? rest
  | group _ _ _ _ rest => else? rest

/-- All tags from left to right, with the opening and closing tags of groups around their bodies. -/
def flatten : Forest → List Tag
  | nil => []
  | tag single rest => single :: flatten rest
  | group _ opener body closer rest =>
      opener :: (flatten body ++ (closer.toList ++ flatten rest))

/-- The number of groups inside of one another at the deepest place. -/
def height : Forest → Nat
  | nil => 0
  | tag _ rest => height rest
  | group _ _ body _ rest => max (height body + 1) (height rest)

end Forest

namespace Group

/-- From the start of the opening tag to the end of the closing tag, if there is one. -/
def span? (group : Group) : Option Span :=
  group.closer.map fun closer => ⟨group.opener.start, closer.stop⟩

end Group

end Stencil

import Stencil.Forest.Basic

/-!
# Gathering tags into groups

An opening block tag starts a group that goes on to the nearest closing tag of its own family;
opening tags on the way start groups inside of it. Every other tag stands alone: variables, `else`,
unknown keywords, and closing tags of another family than that of the innermost open group. A group
that is still open at the end of the text has no closing tag.

The number of groups inside of one another is limited.
-/

set_option autoImplicit false

namespace Stencil

/-- An opening tag lies in as many groups as are allowed. -/
structure TooDeep where
  /-- The byte position of the tag. -/
  position : Nat
  /-- The number of groups that may lie inside of one another. -/
  limit : Nat
  deriving DecidableEq, Repr, Inhabited

def TooDeep.message (tooDeep : TooDeep) : String :=
  s!"block at byte {tooDeep.position} is nested more than {tooDeep.limit} levels deep"

/-- What a list of tags adds to each of the groups that are open before it: the forest that goes on
the end of each group's body, and the tag that closes the group. -/
inductive Levels : (depth : Nat) → Type where
  | root (forest : Forest) : Levels 0
  /-- Inside of the innermost group, and what is added further out. -/
  | inner {depth : Nat} (body : Forest) (closer : Option Tag) (outer : Levels depth) :
      Levels (depth + 1)

namespace Levels

/-- Nothing is added, and no group is closed. -/
def unfinished : (depth : Nat) → Levels depth
  | 0 => root .nil
  | depth + 1 => inner .nil none (unfinished depth)

/-- Puts a single tag before what is added at the innermost level. -/
def addTag {depth : Nat} (tag : Tag) : Levels depth → Levels depth
  | root forest => root (.tag tag forest)
  | inner body closer outer => inner (.tag tag body) closer outer

/-- Puts a group before what is added at the innermost level. -/
def addGroup {depth : Nat} (family : Family) (opener : Tag) (body : Forest) (closer : Option Tag) :
    Levels depth → Levels depth
  | root forest => root (.group family opener body closer forest)
  | inner outerBody outerCloser outer =>
      inner (.group family opener body closer outerBody) outerCloser outer

/-- Makes a group of the innermost level and adds it to the next one. -/
def enclose {depth : Nat} (family : Family) (opener : Tag) : Levels (depth + 1) → Levels depth
  | inner body closer outer => outer.addGroup family opener body closer

def forest : Levels 0 → Forest
  | root forest => forest

end Levels

/-- Gathers tags that follow the opening tags of some groups, whose families are `enclosing`, from
the innermost out. -/
def nestUnder (limit : Nat) :
    (tags : List Tag) → (enclosing : List Family) → Except TooDeep (Levels enclosing.length)
  | [], enclosing => .ok (.unfinished enclosing.length)
  | tag :: tags, enclosing =>
      match tag.opens? with
      | some family =>
          if limit ≤ enclosing.length then .error ⟨tag.start, limit⟩
          else (nestUnder limit tags (family :: enclosing)).map (Levels.enclose family tag)
      | none =>
          match enclosing with
          | [] => (nestUnder limit tags []).map (Levels.addTag tag)
          | family :: outer =>
              if tag.closes? = some family then
                (nestUnder limit tags outer).map (Levels.inner .nil (some tag))
              else (nestUnder limit tags (family :: outer)).map (Levels.addTag tag)

/-- Gathers the tags of a text into a forest with at most `limit` groups inside of one another. -/
def Forest.ofTags (limit : Nat) (tags : List Tag) : Except TooDeep Forest :=
  (nestUnder limit tags []).map Levels.forest

end Stencil

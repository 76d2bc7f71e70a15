import Stencil.Proofs.Forest.Nesting

/-!
# Nesting level by level

Nesting descends from level to level. The tags of a level are read up to one that closes it. An opening tag
starts a level of its own, which takes its tags away from the level around it. All that is known of the
groups around a level is the family of the innermost one and how many there are.
-/

set_option autoImplicit false

namespace Stencil

/-- What is read of some tags at one level, the tag that closes the level, and the tags behind that one. A
level without a closing tag takes all tags. -/
structure Level (tags : List Tag) where
  forest : Forest
  closer : Option Tag
  rest : List Tag
  length_rest_le : rest.length ≤ tags.length
  rest_eq_nil : closer = none → rest = []

namespace Level

variable {limit : Nat} {tags : List Tag}

/-- A tag that stands alone, and then what is read behind it. -/
def addTag (tag : Tag) (level : Level tags) : Level (tag :: tags) where
  forest := .tag tag level.forest
  closer := level.closer
  rest := level.rest
  length_rest_le := Nat.le_succ_of_le level.length_rest_le
  rest_eq_nil := level.rest_eq_nil

/-- A group, and then what is read behind it. -/
def addGroup (family : Family) (opener : Tag) (inner : Level tags) (after : Level inner.rest) :
    Level (opener :: tags) where
  forest := .group family opener inner.forest inner.closer after.forest
  closer := after.closer
  rest := after.rest
  length_rest_le :=
    Nat.le_succ_of_le (Nat.le_trans after.length_rest_le inner.length_rest_le)
  rest_eq_nil := after.rest_eq_nil

/-- Reads a level inside of a group of the family `enclosing`, or outside of all groups, with `depth` groups
around it. -/
def read (limit : Nat) (enclosing : Option Family) (depth : Nat) :
    (tags : List Tag) → Except TooDeep (Level tags)
  | [] => .ok ⟨.nil, none, [], Nat.le_refl 0, fun _ => rfl⟩
  | tag :: tags =>
      match tag.opens? with
      | some family =>
          if limit ≤ depth then .error ⟨tag.start, limit⟩
          else
            match read limit (some family) (depth + 1) tags with
            | .error tooDeep => .error tooDeep
            | .ok inner => (read limit enclosing depth inner.rest).map (addGroup family tag inner)
      | none =>
          if enclosing.isSome ∧ tag.closes? = enclosing then
            .ok ⟨.nil, some tag, tags, Nat.le_succ _, (absurd · (Option.some_ne_none tag))⟩
          else (read limit enclosing depth tags).map (addTag tag)
  termination_by tags => tags.length
  decreasing_by
    · exact Nat.lt_succ_self _
    · exact Nat.lt_succ_of_le inner.length_rest_le
    · exact Nat.lt_succ_self _

/-- What a level adds to the groups around it, when the tags behind it are nested in the groups that are
still open then. -/
def within (limit : Nat) (level : Level tags) :
    (enclosing : List Family) → Except TooDeep (Levels enclosing.length)
  | [] => .ok (.root level.forest)
  | _ :: outer =>
      match level.closer with
      | none => .ok (.inner level.forest none (.unfinished outer.length))
      | some closing => (nestUnder limit level.rest outer).map (.inner level.forest (some closing))

theorem within_addTag (tag : Tag) (level : Level tags) (enclosing : List Family) :
    (level.addTag tag).within limit enclosing =
      (level.within limit enclosing).map (Levels.addTag tag) := by
  cases enclosing with
  | nil => rfl
  | cons innermost outer =>
      obtain ⟨forest, closer, rest, -, -⟩ := level
      cases closer with
      | none => rfl
      | some closing =>
          exact (map_map (nestUnder limit rest outer) (Levels.inner forest (some closing))
            (Levels.addTag tag)).symm

theorem within_addGroup (family : Family) (opener : Tag) (inner : Level tags)
    (after : Level inner.rest) (enclosing : List Family) :
    (addGroup family opener inner after).within limit enclosing =
      (after.within limit enclosing).map
        (Levels.addGroup family opener inner.forest inner.closer) := by
  cases enclosing with
  | nil => rfl
  | cons innermost outer =>
      obtain ⟨forest, closer, rest, -, -⟩ := after
      cases closer with
      | none => rfl
      | some closing =>
          exact (map_map (nestUnder limit rest outer) (Levels.inner forest (some closing))
            (Levels.addGroup family opener inner.forest inner.closer)).symm

/-- With the level inside of it a group is known, and the tags behind the group are nested around it. -/
theorem map_enclose_within (family : Family) (opener : Tag) (inner : Level tags)
    (enclosing : List Family) :
    (inner.within limit (family :: enclosing)).map (Levels.enclose family opener) =
      (nestUnder limit inner.rest enclosing).map
        (Levels.addGroup family opener inner.forest inner.closer) := by
  obtain ⟨forest, closer, rest, -, unfinished⟩ := inner
  cases closer with
  | none =>
      obtain rfl := unfinished rfl
      rfl
  | some closing => exact map_map _ _ _

end Level

/-- Nesting reads the innermost level, and then the levels around it. -/
theorem nestUnder_eq_read {limit depth : Nat} {tags : List Tag} {enclosing : List Family}
    {innermost : Option Family} (head : enclosing.head? = innermost)
    (length : enclosing.length = depth) :
    nestUnder limit tags enclosing =
      (Level.read limit innermost depth tags >>= fun level => level.within limit enclosing) := by
  fun_induction Level.read limit innermost depth tags generalizing enclosing with
  | case1 innermost depth => cases enclosing <;> rfl
  | case2 innermost depth tag tags family opens full =>
      rw [nestUnder_of_opens opens, if_pos (length ▸ full)]
      rfl
  | case3 innermost depth tag tags family opens room tooDeep failed ih =>
      rw [nestUnder_of_opens opens, if_neg (length ▸ room), ih rfl (congrArg (· + 1) length), failed]
      rfl
  | case4 innermost depth tag tags family opens room inner found innerIH afterIH =>
      rw [nestUnder_of_opens opens, if_neg (length ▸ room), innerIH rfl (congrArg (· + 1) length), found,
        ok_bind, Level.map_enclose_within, afterIH head length]
      cases Level.read limit innermost depth inner.rest with
      | error tooDeep => rfl
      | ok after => exact (Level.within_addGroup family tag inner after enclosing).symm
  | case5 innermost depth tag tags opensNone closes =>
      obtain ⟨inside, closes⟩ := closes
      cases enclosing with
      | nil =>
          cases head
          cases inside
      | cons family outer =>
          cases head
          exact nestUnder_of_closes closes tags
  | case6 innermost depth tag tags opensNone stays ih =>
      have closesNone : ∀ family, enclosing.head? = some family → tag.closes? ≠ some family := by
        intro family around closes
        rw [head] at around
        exact stays ⟨by rw [around]; rfl, closes.trans around.symm⟩
      rw [nestUnder_of_stays opensNone closesNone, ih head length]
      cases Level.read limit innermost depth tags with
      | error tooDeep => rfl
      | ok after => exact (Level.within_addTag tag after enclosing).symm

/-- The forest of some tags is read level by level, from outside of all groups. -/
theorem Forest.ofTags_eq_read (limit : Nat) (tags : List Tag) :
    ofTags limit tags = (Level.read limit none 0 tags).map Level.forest := by
  have outside : nestUnder limit tags [] =
      (Level.read limit none 0 tags >>= fun level => level.within limit []) := nestUnder_eq_read rfl rfl
  rw [ofTags, outside]
  cases Level.read limit none 0 tags <;> rfl

end Stencil

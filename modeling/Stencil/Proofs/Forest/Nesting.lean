import Stencil.Forest.Nesting
import Stencil.Proofs.Outcome

/-!
# Well-nested forests

Nesting the tags of a text gives a well-nested forest with these tags. In the other direction a
well-nested forest comes back when its tags are nested again, as long as there are enough levels. If it
has no open groups, other tags may follow its own.
-/

set_option autoImplicit false

namespace Stencil

namespace Tag

theorem isBlock_of_opens? {tag : Tag} {family : Family} (opens : tag.opens? = some family) :
    tag.isBlock = true := by
  rw [opens?] at opens
  split at opens
  · assumption
  · cases opens

theorem isBlock_of_closes? {tag : Tag} {family : Family} (closes : tag.closes? = some family) :
    tag.isBlock = true := by
  rw [closes?] at closes
  split at closes
  · assumption
  · cases closes

theorem isBlock_of_isElse {tag : Tag} (separates : tag.isElse = true) : tag.isBlock = true := by
  rw [isElse, Bool.and_eq_true] at separates
  exact separates.1

/-- No keyword both opens and closes a block. -/
theorem opens?_eq_none_of_closes? {tag : Tag} {family : Family}
    (closes : tag.closes? = some family) : tag.opens? = none := by
  have block := isBlock_of_closes? closes
  rw [closes?, if_pos block, Family.ofCloser?_eq_some_iff] at closes
  rw [opens?, if_pos block, closes]
  cases family <;> decide

end Tag

namespace Forest

/-- The groups at any depth. -/
def allGroups : Forest → List Group
  | nil => []
  | tag _ rest => allGroups rest
  | group family opener body closer rest =>
      ⟨family, opener, body, closer⟩ :: (allGroups body ++ allGroups rest)

/-- Every group has a closing tag. -/
def Closed (forest : Forest) : Prop := ∀ group ∈ forest.allGroups, group.closer.isSome = true

instance (forest : Forest) : Decidable forest.Closed :=
  inferInstanceAs (Decidable (∀ group ∈ forest.allGroups, group.closer.isSome = true))

/-- The tags of a forest stand where nesting puts them, inside of a group of the family `around` or
outside of all groups. Groups start and end with tags of their family, closed groups hold closed
groups only, and nothing follows an open group. -/
def WellNested : (around : Option Family) → Forest → Prop
  | _, nil => True
  | around, tag single rest =>
      single.opens? = none ∧ (∀ family, around = some family → single.closes? ≠ some family) ∧
        rest.WellNested around
  | around, group family opener body closer rest =>
      opener.opens? = some family ∧ body.WellNested (some family) ∧
        (∀ closing, closer = some closing → closing.closes? = some family ∧ body.Closed) ∧
          (closer = none → rest = nil) ∧ rest.WellNested around

@[simp] theorem closed_nil : Closed nil := by simp [Closed, allGroups]

@[simp] theorem closed_tag {single : Tag} {rest : Forest} :
    Closed (tag single rest) ↔ rest.Closed :=
  Iff.rfl

@[simp] theorem closed_group {family : Family} {opener : Tag} {body : Forest} {closer : Option Tag}
    {rest : Forest} :
    Closed (group family opener body closer rest) ↔
      closer.isSome = true ∧ body.Closed ∧ rest.Closed := by
  simp [Closed, allGroups, or_imp, forall_and]

/-- What stands inside of a group may stand outside of it. -/
theorem WellNested.outside {around : Option Family} {forest : Forest}
    (nested : forest.WellNested around) : forest.WellNested none := by
  induction forest with
  | nil => trivial
  | tag single rest ih => exact ⟨nested.1, fun _ absent => (nomatch absent), ih nested.2.2⟩
  | group family opener body closer rest _ restIH =>
      obtain ⟨opens, inside, closes, last, outside⟩ := nested
      exact ⟨opens, inside, closes, last, restIH outside⟩

/-- The tags that stand alone and lie in no group. -/
def singles : Forest → List Tag
  | nil => []
  | tag single rest => single :: singles rest
  | group _ _ _ _ rest => singles rest

theorem singles_subset_flatten (forest : Forest) : forest.singles ⊆ forest.flatten := by
  induction forest with
  | nil => exact List.Subset.refl []
  | tag single rest ih => exact List.cons_subset_cons single ih
  | group family opener body closer rest _ restIH =>
      intro single member
      simp [flatten, restIH member]

/-- What stands outside of all groups may stand inside of a group that it does not close. -/
theorem WellNested.inside {family : Family} {forest : Forest} (nested : forest.WellNested none)
    (stays : ∀ single ∈ forest.singles, single.closes? ≠ some family) :
    forest.WellNested (some family) := by
  induction forest with
  | nil => trivial
  | tag single rest ih =>
      refine ⟨nested.1, ?_, ih nested.2.2 fun other member => ?_⟩
      · intro around same
        cases same
        exact stays single List.mem_cons_self
      · exact stays other (List.mem_cons_of_mem _ member)
  | group other opener body closer rest _ restIH =>
      obtain ⟨opens, inside, closes, last, outside⟩ := nested
      exact ⟨opens, inside, closes, last, restIH outside stays⟩

@[simp] theorem nil_append (forest : Forest) : nil ++ forest = forest := rfl

@[simp] theorem tag_append (single : Tag) (rest forest : Forest) :
    tag single rest ++ forest = tag single (rest ++ forest) := rfl

@[simp] theorem group_append (family : Family) (opener : Tag) (body : Forest) (closer : Option Tag)
    (rest forest : Forest) :
    group family opener body closer rest ++ forest =
      group family opener body closer (rest ++ forest) := rfl

@[simp] theorem append_nil (forest : Forest) : forest ++ nil = forest := by
  induction forest with
  | nil => rfl
  | tag single rest ih => rw [tag_append, ih]
  | group family opener body closer rest _ restIH => rw [group_append, restIH]

end Forest

namespace Levels

/-- Puts a forest before what is added at the innermost level. -/
def addForest {depth : Nat} (forest : Forest) : Levels depth → Levels depth
  | root outside => root (forest ++ outside)
  | inner body closer outer => inner (forest ++ body) closer outer

theorem addForest_nil {depth : Nat} (levels : Levels depth) : levels.addForest .nil = levels := by
  cases levels <;> rfl

theorem addTag_addForest {depth : Nat} (tag : Tag) (rest : Forest) (levels : Levels depth) :
    (levels.addForest rest).addTag tag = levels.addForest (.tag tag rest) := by
  cases levels <;> rfl

theorem enclose_addForest {depth : Nat} (family : Family) (opener closing : Tag)
    (body rest : Forest) (levels : Levels depth) :
    ((inner .nil (some closing) (levels.addForest rest)).addForest body).enclose family opener =
      levels.addForest (.group family opener body (some closing) rest) := by
  cases levels <;> simp [addForest, enclose, addGroup]

theorem enclose_addForest_unfinished {depth : Nat} (family : Family) (opener : Tag)
    (body : Forest) :
    ((unfinished (depth + 1)).addForest body).enclose family opener =
      (unfinished depth).addForest (.group family opener body none .nil) := by
  cases depth <;> simp [unfinished, addForest, enclose, addGroup]

/-- The tags that have been gathered, from left to right. -/
def flatten {depth : Nat} : Levels depth → List Tag
  | root forest => forest.flatten
  | inner body closer outer => body.flatten ++ (closer.toList ++ outer.flatten)

/-- The levels are what nesting makes of some tags inside of the groups `enclosing`: well-nested,
and unfinished after the first level that is not closed. -/
def Sound (limit : Nat) : (enclosing : List Family) → Levels enclosing.length → Prop
  | [], root forest => forest.WellNested none ∧ forest.height ≤ limit
  | family :: enclosing, inner body closer outer =>
      body.WellNested (some family) ∧ enclosing.length + 1 + body.height ≤ limit ∧
        (∀ closing, closer = some closing → closing.closes? = some family ∧ body.Closed) ∧
          (closer = none → outer = unfinished enclosing.length) ∧ Sound limit enclosing outer

theorem flatten_unfinished (depth : Nat) : (unfinished depth).flatten = [] := by
  induction depth with
  | zero => rfl
  | succ depth ih => exact ih

theorem flatten_addTag {depth : Nat} (tag : Tag) (levels : Levels depth) :
    (levels.addTag tag).flatten = tag :: levels.flatten := by
  cases levels <;> rfl

theorem flatten_enclose {depth : Nat} (family : Family) (opener : Tag)
    (levels : Levels (depth + 1)) :
    (levels.enclose family opener).flatten = opener :: levels.flatten := by
  obtain _ | ⟨body, closer, outer⟩ := levels
  cases outer <;> simp [enclose, addGroup, flatten, Forest.flatten]

section

variable {limit : Nat} {enclosing : List Family}

theorem sound_unfinished (bound : enclosing.length ≤ limit) :
    Sound limit enclosing (unfinished enclosing.length) := by
  induction enclosing with
  | nil => exact ⟨trivial, Nat.zero_le _⟩
  | cons family enclosing ih =>
      rw [List.length_cons] at bound
      exact ⟨trivial, bound, fun _ absent => (nomatch absent), fun _ => rfl, ih (by omega)⟩

theorem Sound.addTag {levels : Levels enclosing.length} {tag : Tag}
    (sound : Sound limit enclosing levels) (opensNone : tag.opens? = none)
    (stays : ∀ family, enclosing.head? = some family → tag.closes? ≠ some family) :
    Sound limit enclosing (levels.addTag tag) := by
  cases enclosing with
  | nil =>
      obtain ⟨forest⟩ := levels
      exact ⟨⟨opensNone, stays, sound.1⟩, sound.2⟩
  | cons family enclosing =>
      obtain _ | ⟨body, closer, outer⟩ := levels
      obtain ⟨nested, bound, closes, open', sound⟩ := sound
      exact ⟨⟨opensNone, stays, nested⟩, bound, closes, open', sound⟩

theorem Sound.close {outer : Levels enclosing.length} {closing : Tag} {family : Family}
    (sound : Sound limit enclosing outer) (bound : enclosing.length + 1 ≤ limit)
    (closes : closing.closes? = some family) :
    Sound limit (family :: enclosing) (inner .nil (some closing) outer) := by
  refine ⟨trivial, bound, ?_, fun absent => (nomatch absent), sound⟩
  rintro other same
  cases same
  exact ⟨closes, Forest.closed_nil⟩

/-- A group is finished with the innermost level: an open one leaves nothing further out, so that
it never lies in a closed one. -/
theorem Sound.enclose {family : Family} {levels : Levels (enclosing.length + 1)} {opener : Tag}
    (sound : Sound limit (family :: enclosing) levels) (opens : opener.opens? = some family) :
    Sound limit enclosing (levels.enclose family opener) := by
  obtain _ | ⟨body, closer, outer⟩ := levels
  obtain ⟨nested, bound, closes, unclosed, sound⟩ := sound
  cases enclosing with
  | nil =>
      obtain ⟨forest⟩ := outer
      have nothing : closer = none → forest = .nil := by
        intro absent
        cases unclosed absent
        rfl
      refine ⟨⟨opens, nested, closes, nothing, sound.1⟩, ?_⟩
      exact Nat.max_le.mpr ⟨by simpa [Nat.add_comm] using bound, sound.2⟩
  | cons surrounding enclosing =>
      obtain _ | ⟨outerBody, outerCloser, further⟩ := outer
      obtain ⟨outerNested, outerBound, outerCloses, outerUnclosed, sound⟩ := sound
      have nothing : closer = none → outerBody = .nil ∧ outerCloser = none := by
        intro absent
        cases unclosed absent
        exact ⟨rfl, rfl⟩
      refine ⟨⟨opens, nested, closes, fun absent => (nothing absent).1, outerNested⟩, ?_, ?_,
        outerUnclosed, sound⟩
      · rw [List.length_cons] at bound
        simp only [Forest.height]
        omega
      · intro closing same
        obtain ⟨closesOuter, outerClosed⟩ := outerCloses closing same
        refine ⟨closesOuter, Forest.closed_group.mpr ⟨?_, ?_, outerClosed⟩⟩
        · cases closer with
          | none => cases (nothing rfl).2.symm.trans same
          | some _ => rfl
        · cases closer with
          | none => cases (nothing rfl).2.symm.trans same
          | some inner => exact (closes inner rfl).2

end

end Levels

/-! ## One tag at a time -/

section

variable {limit : Nat} {enclosing : List Family} {tag : Tag} {family : Family}

/-- A tag closes the innermost of the open groups or closes none of them. -/
theorem closes_or_stays (tag : Tag) (enclosing : List Family) :
    (∃ family outer, enclosing = family :: outer ∧ tag.closes? = some family) ∨
      ∀ family, enclosing.head? = some family → tag.closes? ≠ some family := by
  cases enclosing with
  | nil =>
      right
      intro family absent
      cases absent
  | cons innermost outer =>
      by_cases closes : tag.closes? = some innermost
      · exact .inl ⟨innermost, outer, rfl, closes⟩
      · right
        intro family same
        cases same
        exact closes

theorem nestUnder_of_opens (opens : tag.opens? = some family) (tags : List Tag) :
    nestUnder limit (tag :: tags) enclosing =
      if limit ≤ enclosing.length then .error ⟨tag.start, limit⟩
      else (nestUnder limit tags (family :: enclosing)).map (Levels.enclose family tag) := by
  cases enclosing <;> simp only [nestUnder, opens]

theorem nestUnder_of_closes (closes : tag.closes? = some family) (tags : List Tag) :
    nestUnder limit (tag :: tags) (family :: enclosing) =
      (nestUnder limit tags enclosing).map (Levels.inner .nil (some tag)) := by
  simp only [nestUnder, Tag.opens?_eq_none_of_closes? closes, closes, ↓reduceIte]

theorem nestUnder_of_stays (opensNone : tag.opens? = none)
    (stays : ∀ family, enclosing.head? = some family → tag.closes? ≠ some family)
    (tags : List Tag) :
    nestUnder limit (tag :: tags) enclosing =
      (nestUnder limit tags enclosing).map (Levels.addTag tag) := by
  cases enclosing with
  | nil => simp only [nestUnder, opensNone]
  | cons family outer => simp only [nestUnder, opensNone, stays family rfl, ↓reduceIte]

end

/-- Nesting gathers all tags, in order, into well-nested levels. -/
theorem sound_of_nestUnder {limit : Nat} {tags : List Tag} {enclosing : List Family}
    {levels : Levels enclosing.length} (bound : enclosing.length ≤ limit)
    (result : nestUnder limit tags enclosing = .ok levels) :
    levels.Sound limit enclosing ∧ levels.flatten = tags := by
  induction tags generalizing enclosing with
  | nil =>
      cases result
      exact ⟨Levels.sound_unfinished bound, Levels.flatten_unfinished _⟩
  | cons tag tags ih =>
      cases opens : tag.opens? with
      | some family =>
          rw [nestUnder_of_opens opens] at result
          split at result
          · cases result
          · obtain ⟨inner, inside, rfl⟩ := map_eq_ok_iff.mp result
            obtain ⟨sound, flat⟩ := ih (by rw [List.length_cons]; omega) inside
            exact ⟨sound.enclose opens, by rw [Levels.flatten_enclose, flat]⟩
      | none =>
          rcases closes_or_stays tag enclosing with ⟨family, outer, rfl, closes⟩ | stays
          · rw [nestUnder_of_closes closes] at result
            obtain ⟨later, inside, rfl⟩ := map_eq_ok_iff.mp result
            rw [List.length_cons] at bound
            obtain ⟨sound, flat⟩ := ih (by omega) inside
            exact ⟨sound.close bound closes, by rw [Levels.flatten, flat]; rfl⟩
          · rw [nestUnder_of_stays opens stays] at result
            obtain ⟨later, inside, rfl⟩ := map_eq_ok_iff.mp result
            obtain ⟨sound, flat⟩ := ih bound inside
            exact ⟨sound.addTag opens stays, by rw [Levels.flatten_addTag, flat]⟩

/-- The tags of a closed forest add that forest to what the tags after them add. -/
theorem nestUnder_flatten_append {limit : Nat} {forest : Forest} {enclosing : List Family}
    (nested : forest.WellNested enclosing.head?) (closed : forest.Closed)
    (bound : enclosing.length + forest.height ≤ limit) (tags : List Tag) :
    nestUnder limit (forest.flatten ++ tags) enclosing =
      (nestUnder limit tags enclosing).map (Levels.addForest forest) := by
  induction forest generalizing enclosing tags with
  | nil =>
      rw [Forest.flatten, List.nil_append]
      cases nestUnder limit tags enclosing with
      | error tooDeep => rfl
      | ok levels => rw [Except.map, Levels.addForest_nil]
  | tag single rest ih =>
      obtain ⟨opensNone, stays, nested⟩ := nested
      rw [Forest.flatten, List.cons_append, nestUnder_of_stays opensNone stays,
        ih nested closed bound]
      cases nestUnder limit tags enclosing with
      | error tooDeep => rfl
      | ok levels => simp only [Except.map, Levels.addTag_addForest]
  | group family opener body closer rest bodyIH restIH =>
      obtain ⟨opens, inside, closes, -, nested⟩ := nested
      obtain ⟨isClosed, bodyClosed, restClosed⟩ := Forest.closed_group.mp closed
      obtain ⟨closing, rfl⟩ := Option.isSome_iff_exists.mp isClosed
      simp only [Forest.height] at bound
      have room : ¬limit ≤ enclosing.length := by omega
      have flat : (Forest.group family opener body (some closing) rest).flatten ++ tags =
          opener :: (body.flatten ++ closing :: (rest.flatten ++ tags)) := by
        simp [Forest.flatten]
      have bodyBound : (family :: enclosing).length + body.height ≤ limit := by
        rw [List.length_cons]
        omega
      have bodyNested : body.WellNested (family :: enclosing).head? := inside
      rw [flat, nestUnder_of_opens opens, if_neg room, bodyIH bodyNested bodyClosed bodyBound,
        nestUnder_of_closes (closes closing rfl).1, restIH nested restClosed (by omega)]
      cases nestUnder limit tags enclosing with
      | error tooDeep => rfl
      | ok levels => simp only [Except.map, Levels.enclose_addForest]

/-- A larger limit changes nothing about what has been nested. -/
theorem nestUnder_mono {limit larger : Nat} (more : limit ≤ larger) {tags : List Tag}
    {enclosing : List Family} {levels : Levels enclosing.length}
    (result : nestUnder limit tags enclosing = .ok levels) :
    nestUnder larger tags enclosing = .ok levels := by
  induction tags generalizing enclosing with
  | nil => exact result
  | cons tag tags ih =>
      cases opens : tag.opens? with
      | some family =>
          rw [nestUnder_of_opens opens] at result ⊢
          split at result
          · cases result
          · next room =>
              obtain ⟨inner, inside, rfl⟩ := map_eq_ok_iff.mp result
              rw [if_neg (by omega), ih inside]
              rfl
      | none =>
          rcases closes_or_stays tag enclosing with ⟨family, outer, rfl, closes⟩ | stays
          · rw [nestUnder_of_closes closes] at result ⊢
            obtain ⟨later, inside, rfl⟩ := map_eq_ok_iff.mp result
            rw [ih inside]
            rfl
          · rw [nestUnder_of_stays opens stays] at result ⊢
            obtain ⟨later, inside, rfl⟩ := map_eq_ok_iff.mp result
            rw [ih inside]
            rfl

/-- The tags of a well-nested forest, with nothing after them, add that forest and close nothing. -/
theorem nestUnder_flatten {limit : Nat} {forest : Forest} {enclosing : List Family}
    (nested : forest.WellNested enclosing.head?)
    (bound : enclosing.length + forest.height ≤ limit) :
    nestUnder limit forest.flatten enclosing =
      .ok ((Levels.unfinished enclosing.length).addForest forest) := by
  induction forest generalizing enclosing with
  | nil => rw [Forest.flatten, nestUnder, Levels.addForest_nil]
  | tag single rest ih =>
      obtain ⟨opensNone, stays, nested⟩ := nested
      rw [Forest.flatten, nestUnder_of_stays opensNone stays, ih nested bound, Except.map,
        Levels.addTag_addForest]
  | group family opener body closer rest bodyIH restIH =>
      obtain ⟨opens, inside, closes, last, nested⟩ := nested
      simp only [Forest.height] at bound
      have room : ¬limit ≤ enclosing.length := by omega
      have bodyBound : (family :: enclosing).length + body.height ≤ limit := by
        rw [List.length_cons]
        omega
      have bodyNested : body.WellNested (family :: enclosing).head? := inside
      cases closer with
      | none =>
          obtain rfl := last rfl
          have flat : (Forest.group family opener body none .nil).flatten =
              opener :: body.flatten := by
            simp [Forest.flatten]
          rw [flat, nestUnder_of_opens opens, if_neg room, bodyIH bodyNested bodyBound]
          exact congrArg Except.ok (Levels.enclose_addForest_unfinished family opener body)
      | some closing =>
          have flat : (Forest.group family opener body (some closing) rest).flatten =
              opener :: (body.flatten ++ closing :: rest.flatten) := by
            simp [Forest.flatten]
          obtain ⟨closesIt, bodyClosed⟩ := closes closing rfl
          rw [flat, nestUnder_of_opens opens, if_neg room,
            nestUnder_flatten_append bodyNested bodyClosed bodyBound,
            nestUnder_of_closes closesIt, restIH nested (by omega)]
          simp only [Except.map, Levels.enclose_addForest]

namespace Forest

variable {limit : Nat} {tags : List Tag} {forest : Forest}

/-- The forest of some tags is well-nested and has these tags. -/
theorem of_ofTags (result : ofTags limit tags = .ok forest) :
    forest.WellNested none ∧ forest.height ≤ limit ∧ forest.flatten = tags := by
  obtain ⟨levels, inside, rfl⟩ := map_eq_ok_iff.mp result
  obtain ⟨sound, flat⟩ := sound_of_nestUnder (Nat.zero_le _) inside
  obtain ⟨outside⟩ := levels
  exact ⟨sound.1, sound.2, flat⟩

theorem ofTags_mono {larger : Nat} (more : limit ≤ larger)
    (result : ofTags limit tags = .ok forest) : ofTags larger tags = .ok forest := by
  obtain ⟨levels, inside, rfl⟩ := map_eq_ok_iff.mp result
  exact map_eq_ok_iff.mpr ⟨levels, nestUnder_mono more inside, rfl⟩

/-- What nesting makes of some tags is the well-nested forest of these tags, and it is made whenever
that forest is not too high. -/
theorem ofTags_eq_ok_iff : ofTags limit tags = .ok forest ↔
    forest.WellNested none ∧ forest.height ≤ limit ∧ forest.flatten = tags := by
  constructor
  · exact of_ofTags
  · rintro ⟨nested, bound, rfl⟩
    have nestedOutside : forest.WellNested ([] : List Family).head? := nested
    have whole := nestUnder_flatten nestedOutside
      (Nat.le_trans (Nat.le_of_eq (Nat.zero_add _)) bound)
    rw [ofTags, whole]
    simp [Except.map, Levels.unfinished, Levels.addForest, Levels.forest]

/-- A well-nested forest is known by its tags. -/
theorem WellNested.eq_of_flatten_eq {other : Forest} (nested : forest.WellNested none)
    (otherNested : other.WellNested none) (same : forest.flatten = other.flatten) :
    forest = other := by
  have made := ofTags_eq_ok_iff.mpr ⟨nested, Nat.le_max_left forest.height other.height, same⟩
  have otherMade :=
    ofTags_eq_ok_iff.mpr ⟨otherNested, Nat.le_max_right forest.height other.height, rfl⟩
  exact Except.ok.inj (made.symm.trans otherMade)

/-- What is nested after a closed forest stands beside it. -/
theorem ofTags_append (made : ofTags limit tags = .ok forest) (closed : forest.Closed)
    (later : List Tag) : ofTags limit (tags ++ later) = (ofTags limit later).map (forest ++ ·) := by
  obtain ⟨nested, bound, rfl⟩ := of_ofTags made
  have nestedOutside : forest.WellNested ([] : List Family).head? := nested
  have whole := nestUnder_flatten_append nestedOutside closed
    (Nat.le_trans (Nat.le_of_eq (Nat.zero_add _)) bound) later
  rw [ofTags, whole, ofTags]
  cases nestUnder limit later [] with
  | error tooDeep => rfl
  | ok levels =>
      obtain ⟨outside⟩ := levels
      rfl

/-! ## Groups at any depth -/

variable {group : Group}

theorem WellNested.of_mem_allGroups {around : Option Family} (nested : forest.WellNested around)
    (member : group ∈ forest.allGroups) :
    group.opener.opens? = some group.family ∧ group.body.WellNested (some group.family) ∧
      ∀ closing, group.closer = some closing →
        closing.closes? = some group.family ∧ group.body.Closed := by
  induction forest generalizing around with
  | nil => cases member
  | tag single rest ih => exact ih nested.2.2 member
  | group family opener body closer rest bodyIH restIH =>
      obtain ⟨opens, inside, closes, -, outside⟩ := nested
      rcases List.mem_cons.mp member with rfl | deeper
      · exact ⟨opens, inside, closes⟩
      · rcases List.mem_append.mp deeper with inBody | inRest
        · exact bodyIH inside inBody
        · exact restIH outside inRest

theorem height_lt_of_mem_allGroups (member : group ∈ forest.allGroups) :
    group.body.height < forest.height := by
  induction forest with
  | nil => cases member
  | tag single rest ih => exact ih member
  | group family opener body closer rest bodyIH restIH =>
      simp only [height]
      rcases List.mem_cons.mp member with rfl | deeper
      · dsimp only
        omega
      · rcases List.mem_append.mp deeper with inBody | inRest
        · have below := bodyIH inBody
          omega
        · have below := restIH inRest
          omega

/-- The tags of a group stand together among the tags of the forest. -/
theorem exists_flatten_of_mem_allGroups (member : group ∈ forest.allGroups) :
    ∃ before after, forest.flatten =
      before ++ group.opener :: (group.body.flatten ++ (group.closer.toList ++ after)) := by
  induction forest with
  | nil => cases member
  | tag single rest ih =>
      obtain ⟨before, after, same⟩ := ih member
      exact ⟨single :: before, after, by rw [flatten, same]; rfl⟩
  | group family opener body closer rest bodyIH restIH =>
      rcases List.mem_cons.mp member with rfl | deeper
      · exact ⟨[], rest.flatten, rfl⟩
      · rcases List.mem_append.mp deeper with inBody | inRest
        · obtain ⟨before, after, same⟩ := bodyIH inBody
          exact ⟨opener :: before, after ++ (closer.toList ++ rest.flatten), by
            rw [flatten, same]
            simp⟩
        · obtain ⟨before, after, same⟩ := restIH inRest
          exact ⟨opener :: (body.flatten ++ (closer.toList ++ before)), after, by
            rw [flatten, same]
            simp⟩

end Forest

end Stencil

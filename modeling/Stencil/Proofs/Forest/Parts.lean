import Stencil.Forest.Strict
import Stencil.Proofs.Forest.Nesting
import Stencil.Proofs.Tag.Pairing

/-!
# Parts of a forest

The body of a closed group, and the two halves of a conditional body around its first separator,
stand between two block tags of the text. Such a part is closed and well-nested, lies lower than the
whole forest, and has no faults of its own if the whole forest has none.
-/

set_option autoImplicit false

namespace Stencil

namespace Forest

/-! ## The halves of a conditional body -/

/-- What stands before the first separator. -/
def beforeElse : Forest → Forest
  | nil => nil
  | tag single rest => if single.isElse then nil else tag single (beforeElse rest)
  | group family opener body closer rest => group family opener body closer (beforeElse rest)

/-- What stands after the first separator. -/
def afterElse : Forest → Forest
  | nil => nil
  | tag single rest => if single.isElse then rest else afterElse rest
  | group _ _ _ _ rest => afterElse rest

variable {forest : Forest}

/-- A forest is cut in two by its first separator. -/
theorem eq_append_of_else? {separator : Tag} (found : forest.else? = some separator) :
    forest = forest.beforeElse ++ tag separator forest.afterElse ∧ separator.isElse = true := by
  induction forest with
  | nil => cases found
  | tag single rest ih =>
      simp only [else?] at found
      simp only [beforeElse, afterElse]
      split at found
      · next separates =>
          cases found
          exact ⟨by simp [separates], separates⟩
      · next different =>
          obtain ⟨same, separates⟩ := ih found
          exact ⟨by simpa [different] using same, separates⟩
  | group family opener body closer rest _ restIH =>
      obtain ⟨same, separates⟩ := restIH found
      exact ⟨by simpa [beforeElse, afterElse] using same, separates⟩

theorem else?_beforeElse (forest : Forest) : forest.beforeElse.else? = none := by
  induction forest with
  | nil => rfl
  | tag single rest ih =>
      simp only [beforeElse]
      split
      · rfl
      · next different => simpa [else?, different] using ih
  | group family opener body closer rest _ restIH => exact restIH

/-! ## Forests side by side -/

@[simp] theorem flatten_append (left right : Forest) :
    (left ++ right).flatten = left.flatten ++ right.flatten := by
  induction left with
  | nil => rfl
  | tag single rest ih => simp [flatten, ih]
  | group family opener body closer rest _ restIH => simp [flatten, restIH]

theorem height_append (left right : Forest) :
    (left ++ right).height = max left.height right.height := by
  induction left with
  | nil => simp [height]
  | tag single rest ih => simp [height, ih]
  | group family opener body closer rest _ restIH => simp [height, restIH, Nat.max_assoc]

theorem closed_append {left right : Forest} :
    (left ++ right).Closed ↔ left.Closed ∧ right.Closed := by
  induction left with
  | nil => simp
  | tag single rest ih => simp [ih]
  | group family opener body closer rest _ restIH => simp [restIH, and_assoc]

theorem WellNested.of_append {around : Option Family} {left right : Forest}
    (nested : (left ++ right).WellNested around) :
    left.WellNested around ∧ right.WellNested around := by
  induction left with
  | nil => exact ⟨trivial, nested⟩
  | tag single rest ih =>
      obtain ⟨opensNone, stays, nested⟩ := nested
      exact ⟨⟨opensNone, stays, (ih nested).1⟩, (ih nested).2⟩
  | group family opener body closer rest _ restIH =>
      obtain ⟨opens, inside, closes, last, nested⟩ := nested
      refine ⟨⟨opens, inside, closes, ?_, (restIH nested).1⟩, (restIH nested).2⟩
      intro unclosed
      cases rest with
      | nil => rfl
      | tag _ _ => cases last unclosed
      | group _ _ _ _ _ => cases last unclosed

theorem verbatimSpans_append (left right : Forest) :
    (left ++ right).verbatimSpans = left.verbatimSpans ++ right.verbatimSpans := by
  induction left with
  | nil => rfl
  | tag single rest ih => exact ih
  | group family opener body closer rest _ restIH =>
      cases closer with
      | none => simp [verbatimSpans, restIH]
      | some closing =>
          simp only [group_append, verbatimSpans, restIH]
          split <;> simp

theorem findings_append {left right : Forest} (noElse : left.else? = none)
    (parent : Option Family) (elseSeen : Bool) :
    (left ++ right).findings parent elseSeen =
      left.findings parent elseSeen ++ right.findings parent elseSeen := by
  induction left with
  | nil => rfl
  | tag single rest ih =>
      simp only [else?] at noElse
      split at noElse
      · cases noElse
      · next different =>
          simp only [tag_append, findings, different, ih noElse, Bool.false_and]
          split <;> simp
  | group family opener body closer rest _ restIH =>
      cases closer with
      | none => simp [findings, restIH noElse]
      | some closing =>
          simp only [group_append, findings, restIH noElse]
          split <;> simp

/-- Without a separator of its own a forest has the same faults in every group. -/
theorem findings_of_else?_eq_none (noElse : forest.else? = none) (parent : Option Family)
    (elseSeen : Bool) : forest.findings parent elseSeen = forest.findings none false := by
  induction forest with
  | nil => rfl
  | tag single rest ih =>
      simp only [else?] at noElse
      split at noElse
      · cases noElse
      · next different => simp [findings, different, ih noElse]
  | group family opener body closer rest _ restIH =>
      cases closer with
      | none => simp [findings, restIH noElse]
      | some closing => simp [findings, restIH noElse]

/-- After the separator of a conditional body, further separators are as faulty as outside. -/
theorem findings_of_refuses {parent : Option Family} {elseSeen : Bool}
    (refuses : parent = some .conditional → elseSeen = true) :
    forest.findings parent elseSeen = forest.findings none false := by
  induction forest with
  | nil => rfl
  | tag single rest ih =>
      by_cases conditional : parent = some .conditional
      · simp [findings, conditional, refuses conditional] at ih ⊢
        simp [ih]
      · simp [findings, conditional, ih]
  | group family opener body closer rest _ restIH =>
      cases closer with
      | none => simp [findings, restIH]
      | some closing => simp [findings, restIH]

/-! ## Groups that are not verbatim text -/

/-- The groups at any depth that do not lie in closed verbatim groups. -/
def exposedGroups : Forest → List Group
  | nil => []
  | tag _ rest => exposedGroups rest
  | group family opener body closer rest =>
      ⟨family, opener, body, closer⟩ ::
        ((if family = .verbatim ∧ closer.isSome then [] else exposedGroups body) ++
          exposedGroups rest)

variable {group : Group}

theorem allGroups_of_mem_exposedGroups (member : group ∈ forest.exposedGroups) :
    group ∈ forest.allGroups := by
  induction forest with
  | nil => cases member
  | tag single rest ih => exact ih member
  | group family opener body closer rest bodyIH restIH =>
      rcases List.mem_cons.mp member with rfl | deeper
      · exact List.mem_cons_self
      · apply List.mem_cons_of_mem
        rcases List.mem_append.mp deeper with inBody | inRest
        · split at inBody
          · cases inBody
          · exact List.mem_append_left _ (bodyIH inBody)
        · exact List.mem_append_right _ (restIH inRest)

theorem findings_of_mem_exposedGroups {parent : Option Family} {elseSeen : Bool}
    (clean : forest.findings parent elseSeen = []) (member : group ∈ forest.exposedGroups)
    (notVerbatim : group.family ≠ .verbatim) :
    group.body.findings (some group.family) false = [] ∧ group.closer.isSome = true := by
  induction forest generalizing parent elseSeen with
  | nil => cases member
  | tag single rest ih =>
      simp only [findings] at clean
      split at clean
      · split at clean
        · exact ih clean member
        · cases clean
      · exact ih clean member
  | group family opener body closer rest bodyIH restIH =>
      cases closer with
      | none => simp [findings] at clean
      | some closing =>
          simp only [findings] at clean
          simp only [exposedGroups, Option.isSome_some, and_true] at member
          split at clean
          · next verbatim =>
              rw [if_pos verbatim] at member
              rcases List.mem_cons.mp member with rfl | inRest
              · exact absurd verbatim notVerbatim
              · exact restIH clean inRest
          · next other =>
              rw [if_neg other] at member
              obtain ⟨bodyClean, restClean⟩ := List.append_eq_nil_iff.mp clean
              rcases List.mem_cons.mp member with rfl | deeper
              · exact ⟨bodyClean, rfl⟩
              · rcases List.mem_append.mp deeper with inBody | inRest
                · exact bodyIH bodyClean inBody
                · exact restIH restClean inRest

theorem exists_tags_of_mem_verbatimSpans {span : Span} (member : span ∈ forest.verbatimSpans) :
    (∃ opener ∈ forest.flatten, opener.start = span.start) ∧
      ∃ closer ∈ forest.flatten, closer.stop = span.stop := by
  induction forest with
  | nil => cases member
  | tag single rest ih =>
      obtain ⟨⟨opener, opens, start⟩, closer, closes, stop⟩ := ih member
      exact ⟨⟨opener, List.mem_cons_of_mem _ opens, start⟩, closer,
        List.mem_cons_of_mem _ closes, stop⟩
  | group family opener body closer rest bodyIH restIH =>
      simp only [flatten, List.mem_cons, List.mem_append]
      have deeper (among : span ∈ body.verbatimSpans ++ rest.verbatimSpans) :
          (∃ tag, (tag = opener ∨ tag ∈ body.flatten ∨ tag ∈ closer.toList ∨
            tag ∈ rest.flatten) ∧ tag.start = span.start) ∧
          ∃ tag, (tag = opener ∨ tag ∈ body.flatten ∨ tag ∈ closer.toList ∨
            tag ∈ rest.flatten) ∧ tag.stop = span.stop := by
        rcases List.mem_append.mp among with inBody | inRest
        · obtain ⟨⟨first, opens, start⟩, last, closes, stop⟩ := bodyIH inBody
          exact ⟨⟨first, .inr (.inl opens), start⟩, last, .inr (.inl closes), stop⟩
        · obtain ⟨⟨first, opens, start⟩, last, closes, stop⟩ := restIH inRest
          exact ⟨⟨first, .inr (.inr (.inr opens)), start⟩, last, .inr (.inr (.inr closes)), stop⟩
      cases closer with
      | none => exact deeper member
      | some closing =>
          simp only [verbatimSpans] at member
          split at member
          · rcases List.mem_cons.mp member with rfl | inRest
            · exact ⟨⟨opener, .inl rfl, rfl⟩, closing, .inr (.inr (.inl (by simp))), rfl⟩
            · exact deeper (List.mem_append_right _ inRest)
          · exact deeper member

section

variable {text : Text} {before after : List Tag} {span : Span}

/-- A verbatim span ends before the tags to the right of its forest. -/
theorem stop_le_of_mem_verbatimSpans (order : Tag.InOrder text (before ++ after))
    (within : forest.flatten ⊆ before) (member : span ∈ forest.verbatimSpans) {later : Tag}
    (laterMember : later ∈ after) : span.stop ≤ later.start := by
  obtain ⟨-, last, closes, stop⟩ := exists_tags_of_mem_verbatimSpans member
  rw [← stop]
  exact order.stop_le_start (within closes) laterMember

/-- A verbatim span starts after the tags to the left of its forest. -/
theorem le_start_of_mem_verbatimSpans (order : Tag.InOrder text (before ++ after))
    (within : forest.flatten ⊆ after) (member : span ∈ forest.verbatimSpans) {earlier : Tag}
    (earlierMember : earlier ∈ before) : earlier.stop ≤ span.start := by
  obtain ⟨⟨first, opens, start⟩, -⟩ := exists_tags_of_mem_verbatimSpans member
  rw [← start]
  exact order.stop_le_start earlierMember (within opens)

end

theorem flatten_group (family : Family) (opener : Tag) (body : Forest) (closer : Option Tag)
    (rest : Forest) :
    (Forest.group family opener body closer rest).flatten =
      (opener :: (body.flatten ++ closer.toList)) ++ rest.flatten := by
  simp [flatten]

theorem mem_flatten_of_mem_allGroups (member : group ∈ forest.allGroups) :
    group.opener ∈ forest.flatten ∧ ∀ closer, group.closer = some closer →
      closer ∈ forest.flatten := by
  obtain ⟨before, after, same⟩ := exists_flatten_of_mem_allGroups member
  rw [same]
  constructor
  · simp
  · intro closer closed
    simp [closed]

/-- A verbatim span around a position of a group's body belongs to the body. -/
theorem mem_verbatimSpans_body {text : Text} (order : Tag.InOrder text forest.flatten)
    (member : group ∈ forest.exposedGroups) (notVerbatim : group.family ≠ .verbatim)
    {closing : Tag} (closed : group.closer = some closing) {span : Span}
    (among : span ∈ forest.verbatimSpans) {position : Nat} (after : group.opener.stop ≤ position)
    (before : position < closing.start) (starts : span.start ≤ position)
    (stops : position < span.stop) : span ∈ group.body.verbatimSpans := by
  induction forest with
  | nil => cases member
  | tag single rest ih => exact ih (order.sublist (List.sublist_cons_self _ _)) member among
  | group family opener body closer rest bodyIH restIH =>
      rw [flatten_group] at order
      have orderRest := order.sublist (List.sublist_append_right _ _)
      have orderBody := order.sublist ((List.sublist_append_left _ _).trans
        ((List.sublist_cons_self _ _).trans (List.sublist_append_left _ _)))
      -- A span further right starts after every tag of this group.
      have notInRest (last : Tag) (isLast : last ∈ opener :: (body.flatten ++ closer.toList))
          (late : position < last.stop) : span ∉ rest.verbatimSpans := by
        intro inRest
        have apart := le_start_of_mem_verbatimSpans order (List.Subset.refl _) inRest isLast
        omega
      -- The position is past the opening tag of a group further right.
      have opensLate (inRest : group ∈ rest.exposedGroups) :
          ∃ later ∈ rest.flatten, later.start ≤ position := by
        have opens := (mem_flatten_of_mem_allGroups (allGroups_of_mem_exposedGroups inRest)).1
        have lies := (orderRest.liesIn _ opens).start_le_stop
        exact ⟨group.opener, opens, Nat.le_trans lies after⟩
      have closerLate {tags : List Tag} (inOrder : Tag.InOrder text tags) (among : closing ∈ tags) :
          position < closing.stop := by
        have lies := (inOrder.liesIn closing among).start_le_stop
        omega
      have notInBody (inRest : group ∈ rest.exposedGroups) : span ∉ body.verbatimSpans := by
        intro inBody
        obtain ⟨later, opens, passed⟩ := opensLate inRest
        have within : body.flatten ⊆ opener :: (body.flatten ++ closer.toList) := by simp
        have apart := stop_le_of_mem_verbatimSpans order within inBody opens
        omega
      rcases List.mem_cons.mp member with rfl | deeper
      · dsimp only at closed notVerbatim
        subst closed
        simp only [verbatimSpans, notVerbatim, ↓reduceIte] at among
        refine (List.mem_append.mp among).resolve_right (notInRest closing (by simp) ?_)
        exact closerLate order (by simp)
      · have ofBody (inBody : group ∈ body.exposedGroups)
            (among : span ∈ body.verbatimSpans ++ rest.verbatimSpans) :
            span ∈ group.body.verbatimSpans := by
          have closes := (mem_flatten_of_mem_allGroups
            (allGroups_of_mem_exposedGroups inBody)).2 closing closed
          refine bodyIH orderBody inBody ((List.mem_append.mp among).resolve_right
            (notInRest closing (by simp [closes]) ?_))
          exact closerLate orderBody closes
        have ofRest (inRest : group ∈ rest.exposedGroups)
            (among : span ∈ body.verbatimSpans ++ rest.verbatimSpans) :
            span ∈ group.body.verbatimSpans :=
          restIH orderRest inRest ((List.mem_append.mp among).resolve_left (notInBody inRest))
        cases closer with
        | none =>
            rcases List.mem_append.mp deeper with inBody | inRest
            · exact ofBody (by simpa using inBody) among
            · exact ofRest inRest among
        | some last =>
            simp only [verbatimSpans] at among
            split at among
            · next verbatim =>
                simp only [verbatim, Option.isSome_some, and_self, ↓reduceIte,
                  List.nil_append] at deeper
                rcases List.mem_cons.mp among with rfl | inRest
                · obtain ⟨later, opens, passed⟩ := opensLate deeper
                  have apart : last.stop ≤ later.start := order.stop_le_start (by simp) opens
                  dsimp only at stops
                  omega
                · exact restIH orderRest deeper inRest
            · next other =>
                simp only [other, false_and, ↓reduceIte] at deeper
                rcases List.mem_append.mp deeper with inBody | inRest
                · exact ofBody inBody among
                · exact ofRest inRest among

end Forest

/-! ## Parts that are read on their own -/

/-- A part of a text between two block tags, and what stands there. -/
structure Part where
  start : Nat
  stop : Nat
  forest : Forest

namespace Part

/-- The part stands between two block tags of a forest, closed, well-nested and lower than all. -/
structure StandsIn (part : Part) (forest : Forest) : Prop where
  exists_edges : ∃ before first second after,
    forest.flatten = before ++ first :: (part.forest.flatten ++ second :: after) ∧
      first.isBlock = true ∧ second.isBlock = true ∧ first.stop = part.start ∧
        second.start = part.stop
  wellNested : part.forest.WellNested none
  closed : part.forest.Closed
  height_lt : part.forest.height < forest.height

end Part

namespace Group

/-- The body of a group, up to its closing tag. -/
def bodyPart (group : Group) (closer : Tag) : Part :=
  ⟨group.opener.stop, closer.start, group.body⟩

/-- The halves of the body of a group around a separator. -/
def halves (group : Group) (separator closer : Tag) : List Part :=
  [⟨group.opener.stop, separator.start, group.body.beforeElse⟩,
    ⟨separator.stop, closer.start, group.body.afterElse⟩]

/-- The parts of a group that are read on their own: the halves of a conditional body with a
separator, and otherwise the whole body. -/
def parts (group : Group) (closer : Tag) : List Part :=
  match group.family, group.body.else? with
  | .conditional, some separator => group.halves separator closer
  | _, _ => [group.bodyPart closer]

variable {group : Group} {forest : Forest} {closer : Tag}

theorem standsIn_bodyPart (nested : forest.WellNested none) (member : group ∈ forest.allGroups)
    (closed : group.closer = some closer) : (group.bodyPart closer).StandsIn forest := by
  obtain ⟨before, after, same⟩ := Forest.exists_flatten_of_mem_allGroups member
  obtain ⟨opens, inside, closes⟩ := nested.of_mem_allGroups member
  obtain ⟨closesIt, bodyClosed⟩ := closes closer closed
  refine ⟨⟨before, group.opener, closer, after, ?_, Tag.isBlock_of_opens? opens,
    Tag.isBlock_of_closes? closesIt, rfl, rfl⟩, inside.outside, bodyClosed,
    Forest.height_lt_of_mem_allGroups member⟩
  rw [same, closed]
  rfl

theorem standsIn_of_mem_halves (nested : forest.WellNested none)
    (member : group ∈ forest.allGroups) (closed : group.closer = some closer) {separator : Tag}
    (separated : group.body.else? = some separator) {part : Part}
    (half : part ∈ group.halves separator closer) : part.StandsIn forest := by
  obtain ⟨before, after, same⟩ := Forest.exists_flatten_of_mem_allGroups member
  obtain ⟨opens, inside, closes⟩ := nested.of_mem_allGroups member
  obtain ⟨closesIt, bodyClosed⟩ := closes closer closed
  obtain ⟨cut, separates⟩ := Forest.eq_append_of_else? separated
  have lower := Forest.height_lt_of_mem_allGroups member
  have openerBlock := Tag.isBlock_of_opens? opens
  have closerBlock := Tag.isBlock_of_closes? closesIt
  have separatorBlock := Tag.isBlock_of_isElse separates
  have flat := congrArg Forest.flatten cut
  rw [Forest.flatten_append, Forest.flatten] at flat
  rw [closed, flat] at same
  rw [cut] at inside bodyClosed lower
  obtain ⟨insideBefore, insideAfter⟩ := inside.outside.of_append
  obtain ⟨closedBefore, closedAfter⟩ := Forest.closed_append.mp bodyClosed
  rw [Forest.height_append] at lower
  rcases List.mem_cons.mp half with rfl | other
  · refine ⟨⟨before, group.opener, separator,
      group.body.afterElse.flatten ++ closer :: after, ?_, openerBlock, separatorBlock, rfl, rfl⟩,
      insideBefore, closedBefore, by dsimp only; omega⟩
    rw [same]
    simp
  · obtain rfl := List.mem_singleton.mp other
    refine ⟨⟨before ++ group.opener :: group.body.beforeElse.flatten, separator, closer, after,
      ?_, separatorBlock, closerBlock, rfl, rfl⟩, insideAfter.2.2, closedAfter, ?_⟩
    · rw [same]
      simp
    · simp only [Forest.height] at lower
      dsimp only
      omega

theorem standsIn_of_mem_parts (nested : forest.WellNested none)
    (member : group ∈ forest.allGroups) (closed : group.closer = some closer) {part : Part}
    (among : part ∈ group.parts closer) : part.StandsIn forest := by
  simp only [parts] at among
  split at among
  · next separator _ separated => exact standsIn_of_mem_halves nested member closed separated among
  · obtain rfl := List.mem_singleton.mp among
    exact standsIn_bodyPart nested member closed

theorem findings_of_mem_parts (clean : forest.findings none false = [])
    (member : group ∈ forest.exposedGroups) (notVerbatim : group.family ≠ .verbatim) {part : Part}
    (among : part ∈ group.parts closer) : part.forest.findings none false = [] := by
  obtain ⟨bodyClean, -⟩ := Forest.findings_of_mem_exposedGroups clean member notVerbatim
  simp only [parts] at among
  split at among
  · next separator conditional separated =>
      obtain ⟨cut, separates⟩ := Forest.eq_append_of_else? separated
      have noElse := Forest.else?_beforeElse group.body
      rw [conditional, cut, Forest.findings_append noElse] at bodyClean
      obtain ⟨beforeClean, afterClean⟩ := List.append_eq_nil_iff.mp bodyClean
      rcases List.mem_cons.mp among with rfl | other
      · rwa [Forest.findings_of_else?_eq_none noElse] at beforeClean
      · obtain rfl := List.mem_singleton.mp other
        simp only [Forest.findings, Tag.isBlock_of_isElse separates, separates, decide_true,
          Bool.not_false, Bool.and_self, ↓reduceIte] at afterClean
        rwa [Forest.findings_of_refuses fun _ => rfl] at afterClean
  · next whole =>
      obtain rfl := List.mem_singleton.mp among
      by_cases conditional : group.family = .conditional
      · cases separated : group.body.else? with
        | none => rwa [Forest.findings_of_else?_eq_none separated] at bodyClean
        | some separator => exact (whole separator conditional separated).elim
      · rwa [Forest.findings_of_refuses fun same =>
          absurd (Option.some.inj same) conditional] at bodyClean

/-- A verbatim span around a position of a part belongs to the part. -/
theorem mem_verbatimSpans_of_mem_parts {text : Text} (order : Tag.InOrder text forest.flatten)
    (member : group ∈ forest.exposedGroups) (notVerbatim : group.family ≠ .verbatim)
    (closed : group.closer = some closer) {part : Part} (among : part ∈ group.parts closer)
    {span : Span} (spans : span ∈ forest.verbatimSpans) {position : Nat}
    (after : part.start ≤ position) (before : position < part.stop)
    (starts : span.start ≤ position) (stops : position < span.stop) :
    span ∈ part.forest.verbatimSpans := by
  obtain ⟨left, right, flat⟩ := Forest.exists_flatten_of_mem_allGroups
    (Forest.allGroups_of_mem_exposedGroups member)
  have inBody (late : group.opener.stop ≤ position) (early : position < closer.start) :
      span ∈ group.body.verbatimSpans :=
    Forest.mem_verbatimSpans_body order member notVerbatim closed spans late early starts stops
  simp only [parts] at among
  split at among
  · next separator _ separated =>
      obtain ⟨cut, -⟩ := Forest.eq_append_of_else? separated
      rw [closed, cut, Forest.flatten_append, Forest.flatten] at flat
      rw [flat] at order
      have here := order.sublist (List.sublist_append_right _ _)
      have halfOrder : Tag.InOrder text ((group.opener :: group.body.beforeElse.flatten) ++
          separator :: (group.body.afterElse.flatten ++ closer :: right)) := by
        simpa using here
      have lastOrder := halfOrder.sublist (List.sublist_append_right _ _)
      have separatorLies := (lastOrder.liesIn separator (by simp)).start_le_stop
      have openerBefore : group.opener.stop ≤ separator.start :=
        halfOrder.stop_le_start List.mem_cons_self List.mem_cons_self
      have closerAfter : separator.stop ≤ closer.start :=
        List.rel_of_pairwise_cons lastOrder.pairwise (by simp)
      rw [cut, Forest.verbatimSpans_append] at inBody
      rcases List.mem_cons.mp among with rfl | other
      · dsimp only at after before
        apply (List.mem_append.mp (inBody after (by omega))).resolve_right
        intro (late : span ∈ group.body.afterElse.verbatimSpans)
        have within : group.body.afterElse.flatten ⊆
            group.body.afterElse.flatten ++ closer :: right := by simp
        have divided : Tag.InOrder text
            ([separator] ++ (group.body.afterElse.flatten ++ closer :: right)) := lastOrder
        have apart := Forest.le_start_of_mem_verbatimSpans divided within late List.mem_cons_self
        omega
      · obtain rfl := List.mem_singleton.mp other
        dsimp only at after before
        apply (List.mem_append.mp (inBody (by omega) before)).resolve_left
        intro early
        have within : group.body.beforeElse.flatten ⊆
            group.opener :: group.body.beforeElse.flatten := by simp
        have apart := Forest.stop_le_of_mem_verbatimSpans halfOrder within early List.mem_cons_self
        omega
  · obtain rfl := List.mem_singleton.mp among
    exact inBody after before

end Group

end Stencil

import Stencil.Proofs.Forest.Parts

/-!
# The grammar of tags

Which lists of tags are free of faults, told without a forest: each block is closed by a tag of its own
family, a conditional block has at most one separator, and no other block tag stands between the tags
of blocks. Between the tags of a verbatim block only the blocks have to be closed.
-/

set_option autoImplicit false

namespace Stencil

namespace Tag

/-- Tags that can stand in a closed block of a family: variables, block tags that open nothing and do
not close the family, and closed blocks. -/
inductive Balanced : Family → List Tag → Prop where
  | nil {family} : Balanced family []
  | single {family single rest} :
      single.opens? = none → single.closes? ≠ some family →
      Balanced family rest → Balanced family (single :: rest)
  | block {family inner opener body closer rest} :
      opener.opens? = some inner → Balanced inner body → closer.closes? = some inner →
      Balanced family rest → Balanced family (opener :: (body ++ closer :: rest))

/-- Tags without faults: variables and closed blocks of such tags, with one separator in a conditional
block, and of balanced tags in a verbatim block. -/
inductive Faultless : List Tag → Prop where
  | nil : Faultless []
  | «variable» {single rest} :
      single.isBlock = false → Faultless rest → Faultless (single :: rest)
  | conditional {opener body closer rest} :
      opener.opens? = some .conditional → Faultless body → closer.closes? = some .conditional →
      Faultless rest → Faultless (opener :: (body ++ closer :: rest))
  | branches {opener first separator second closer rest} :
      opener.opens? = some .conditional → Faultless first → separator.isElse = true →
      Faultless second → closer.closes? = some .conditional →
      Faultless rest → Faultless (opener :: ((first ++ separator :: second) ++ closer :: rest))
  | loop {opener body closer rest} :
      opener.opens? = some .loop → Faultless body → closer.closes? = some .loop →
      Faultless rest → Faultless (opener :: (body ++ closer :: rest))
  | verbatim {opener body closer rest} :
      opener.opens? = some .verbatim → Balanced .verbatim body → closer.closes? = some .verbatim →
      Faultless rest → Faultless (opener :: (body ++ closer :: rest))

/-- Tags without faults around one separator. -/
def FaultlessBranches (tags : List Tag) : Prop :=
  ∃ first separator second, tags = first ++ separator :: second ∧ Faultless first ∧
    separator.isElse = true ∧ Faultless second

theorem opens?_of_not_isBlock {tag : Tag} (plain : tag.isBlock = false) : tag.opens? = none := by
  simp [opens?, plain]

theorem closes?_of_not_isBlock {tag : Tag} (plain : tag.isBlock = false) : tag.closes? = none := by
  simp [closes?, plain]

theorem opens?_closes?_of_isElse {tag : Tag} (separates : tag.isElse = true) :
    tag.opens? = none ∧ tag.closes? = none := by
  have block := isBlock_of_isElse separates
  have keyword : tag.keyword = elseKeyword := by
    rw [isElse, Bool.and_eq_true] at separates
    exact of_decide_eq_true separates.2
  rw [opens?, closes?, if_pos block, if_pos block, keyword]
  decide

end Tag

namespace Forest

variable {forest : Forest} {family : Family} {around : Option Family}

theorem Closed.balanced_flatten (closed : forest.Closed)
    (nested : forest.WellNested (some family)) : Tag.Balanced family forest.flatten := by
  induction forest generalizing family with
  | nil => exact .nil
  | tag single rest ih =>
      obtain ⟨opensNone, stays, nested⟩ := nested
      exact .single opensNone (stays family rfl) (ih (closed_tag.mp closed) nested)
  | group inner opener body closer rest bodyIH restIH =>
      obtain ⟨opens, inside, closes, -, nested⟩ := nested
      obtain ⟨isClosed, bodyClosed, restClosed⟩ := closed_group.mp closed
      obtain ⟨closing, rfl⟩ := Option.isSome_iff_exists.mp isClosed
      exact .block opens (bodyIH bodyClosed inside) (closes closing rfl).1
        (restIH restClosed nested)

theorem WellNested.append {right : Forest} (nested : forest.WellNested around)
    (closed : forest.Closed) (later : right.WellNested around) :
    (forest ++ right).WellNested around := by
  induction forest with
  | nil => exact later
  | tag single rest ih =>
      exact ⟨nested.1, nested.2.1, ih nested.2.2 (closed_tag.mp closed)⟩
  | group inner opener body closer rest _ restIH =>
      obtain ⟨opens, inside, closes, -, nested⟩ := nested
      obtain ⟨isClosed, -, restClosed⟩ := closed_group.mp closed
      refine ⟨opens, inside, closes, fun unclosed => ?_, restIH nested restClosed⟩
      rw [unclosed] at isClosed
      cases isClosed

theorem WellNested.closedGroup {opener closer : Tag} {body rest : Forest}
    (nested : rest.WellNested around) (opens : opener.opens? = some family)
    (inside : body.WellNested (some family)) (bodyClosed : body.Closed)
    (closes : closer.closes? = some family) :
    (Forest.group family opener body (some closer) rest).WellNested around := by
  refine ⟨opens, inside, ?_, ?_, nested⟩
  · intro closing same
    cases same
    exact ⟨closes, bodyClosed⟩
  · intro unclosed
    cases unclosed

theorem exists_of_balanced {tags : List Tag} (balanced : Tag.Balanced family tags) :
    ∃ forest : Forest, forest.flatten = tags ∧ forest.WellNested (some family) ∧
      forest.Closed := by
  induction balanced with
  | nil => exact ⟨.nil, rfl, trivial, closed_nil⟩
  | @single family single _ opensNone stays _ restIH =>
      obtain ⟨rest, rfl, nested, closed⟩ := restIH
      refine ⟨.tag single rest, rfl, ⟨opensNone, fun around same => ?_, nested⟩,
        closed_tag.mpr closed⟩
      cases same
      exact stays
  | @block _ inner opener _ closer _ opens _ closes _ bodyIH restIH =>
      obtain ⟨body, rfl, inside, bodyClosed⟩ := bodyIH
      obtain ⟨rest, rfl, nested, restClosed⟩ := restIH
      exact ⟨.group inner opener body (some closer) rest, rfl,
        nested.closedGroup opens inside bodyClosed closes,
        closed_group.mpr ⟨rfl, bodyClosed, restClosed⟩⟩

/-- A forest without faults gives tags without faults, where in a conditional block one separator is
allowed. -/
theorem WellNested.faultless_flatten (nested : forest.WellNested around)
    {parent : Option Family} {elseSeen : Bool} (clean : forest.findings parent elseSeen = []) :
    Tag.Faultless forest.flatten ∨
      parent = some .conditional ∧ elseSeen = false ∧ Tag.FaultlessBranches forest.flatten := by
  -- The separator may stand anywhere among the single tags. What stands before it is added to the
  -- first branch on the way back, and only the group around turns both branches into one block.
  induction forest generalizing around parent elseSeen with
  | nil => exact .inl .nil
  | tag single rest ih =>
      simp only [findings] at clean
      split at clean
      · split at clean
        · next allowed =>
            simp only [Bool.and_eq_true, decide_eq_true_eq, Bool.not_eq_eq_eq_not,
              Bool.not_true] at allowed
            obtain ⟨⟨separates, conditional⟩, first⟩ := allowed
            rcases ih nested.2.2 clean with faultless | ⟨-, again, -⟩
            · exact .inr ⟨conditional, first, [], single, rest.flatten, rfl, .nil, separates, faultless⟩
            · cases again
        · cases clean
      · next plain =>
          have plain : single.isBlock = false := Bool.eq_false_iff.mpr plain
          rcases ih nested.2.2 clean with faultless | ⟨conditional, first, tags, separator, later,
            same, before, separates, after⟩
          · exact .inl (.variable plain faultless)
          · refine .inr ⟨conditional, first, single :: tags, separator, later, ?_,
              .variable plain before, separates, after⟩
            rw [flatten, same]
            rfl
  | group family opener body closer rest bodyIH restIH =>
      obtain ⟨opens, inside, closes, -, nested⟩ := nested
      cases closer with
      | none => cases clean
      | some closing =>
          obtain ⟨closesFamily, bodyClosed⟩ := closes closing rfl
          have followed (restClean : rest.findings parent elseSeen = [])
              (block : ∀ tags, Tag.Faultless tags →
                Tag.Faultless (opener :: (body.flatten ++ closing :: tags))) :
              Tag.Faultless (Forest.group family opener body (some closing) rest).flatten ∨
                parent = some .conditional ∧ elseSeen = false ∧
                  Tag.FaultlessBranches
                    (Forest.group family opener body (some closing) rest).flatten := by
            rcases restIH nested restClean with faultless | ⟨conditional, first, tags, separator,
              later, same, before, separates, after⟩
            · exact .inl (block _ faultless)
            · refine .inr ⟨conditional, first, opener :: (body.flatten ++ closing :: tags), separator,
                later, ?_, block _ before, separates, after⟩
              simp [flatten, same]
          simp only [findings] at clean
          split at clean
          · next verbatim =>
              subst verbatim
              exact followed clean fun _ => .verbatim opens (bodyClosed.balanced_flatten inside)
                closesFamily
          · next rendered =>
              obtain ⟨bodyClean, restClean⟩ := List.append_eq_nil_iff.mp clean
              apply followed restClean
              rcases bodyIH inside bodyClean with faultless | ⟨conditional, -, tags, separator, later,
                same, before, separates, after⟩
              · cases family with
                | conditional => exact fun _ => .conditional opens faultless closesFamily
                | loop => exact fun _ => .loop opens faultless closesFamily
                | verbatim => exact absurd rfl rendered
              · cases conditional
                rw [same]
                exact fun _ => .branches opens before separates after closesFamily

theorem else?_eq_none_of_plain (plain : ∀ single ∈ forest.singles, single.isBlock = false) :
    forest.else? = none := by
  induction forest with
  | nil => rfl
  | tag single rest ih =>
      have different : single.isElse = false := by
        rw [Tag.isElse, plain single List.mem_cons_self, Bool.false_and]
      rw [else?, different]
      exact ih fun other member => plain other (List.mem_cons_of_mem _ member)
  | group family opener body closer rest _ restIH => exact restIH plain

/-- A forest without faults in which only variables stand outside of all groups. -/
structure Plain (forest : Forest) : Prop where
  nested : forest.WellNested none
  closed : forest.Closed
  singles : ∀ single ∈ forest.singles, single.isBlock = false
  clean : forest.findings none false = []

namespace Plain

theorem inside (plain : forest.Plain) (family : Family) : forest.WellNested (some family) := by
  apply plain.nested.inside
  intro single member
  rw [Tag.closes?_of_not_isBlock (plain.singles single member)]
  intro closes
  cases closes

theorem findings_eq_nil (plain : forest.Plain) (parent : Option Family) (elseSeen : Bool) :
    forest.findings parent elseSeen = [] := by
  rw [findings_of_else?_eq_none (else?_eq_none_of_plain plain.singles), plain.clean]

theorem group {opener closer : Tag} {body rest : Forest} (plain : rest.Plain)
    (opens : opener.opens? = some family) (inside : body.WellNested (some family))
    (bodyClosed : body.Closed) (closes : closer.closes? = some family)
    (clean : family ≠ .verbatim → body.findings (some family) false = []) :
    (Forest.group family opener body (some closer) rest).Plain := by
  refine ⟨plain.nested.closedGroup opens inside bodyClosed closes,
    closed_group.mpr ⟨rfl, bodyClosed, plain.closed⟩, plain.singles, ?_⟩
  rw [findings]
  split
  · exact plain.clean
  · next rendered => rw [clean rendered, plain.clean, List.append_nil]

end Plain

/-- Tags without faults are the tags of such a forest. -/
theorem exists_of_faultless {tags : List Tag} (faultless : Tag.Faultless tags) :
    ∃ forest : Forest, forest.flatten = tags ∧ forest.Plain := by
  induction faultless with
  | nil => exact ⟨.nil, rfl, trivial, closed_nil, fun _ absent => (nomatch absent), rfl⟩
  | @«variable» single _ notBlock _ ih =>
      obtain ⟨rest, rfl, plain⟩ := ih
      refine ⟨.tag single rest, rfl, ⟨Tag.opens?_of_not_isBlock notBlock, ?_, plain.nested⟩,
        closed_tag.mpr plain.closed, ?_, ?_⟩
      · intro around absent
        cases absent
      · intro other member
        rcases List.mem_cons.mp member with rfl | later
        · exact notBlock
        · exact plain.singles other later
      · rw [findings, notBlock]
        exact plain.clean
  | @conditional opener _ closer _ opens _ closes _ bodyIH restIH =>
      obtain ⟨body, rfl, bodyPlain⟩ := bodyIH
      obtain ⟨rest, rfl, plain⟩ := restIH
      exact ⟨.group .conditional opener body (some closer) rest, rfl,
        plain.group opens (bodyPlain.inside _) bodyPlain.closed closes
          fun _ => bodyPlain.findings_eq_nil _ _⟩
  | @branches opener _ separator _ closer _ opens _ separates _ closes _ firstIH secondIH restIH =>
      obtain ⟨first, rfl, firstPlain⟩ := firstIH
      obtain ⟨second, rfl, secondPlain⟩ := secondIH
      obtain ⟨rest, rfl, plain⟩ := restIH
      obtain ⟨opensNone, closesNone⟩ := Tag.opens?_closes?_of_isElse separates
      have later : (Forest.tag separator second).WellNested (some .conditional) := by
        refine ⟨opensNone, fun around _ => ?_, secondPlain.inside _⟩
        rw [closesNone]
        intro absent
        cases absent
      have noElse := else?_eq_none_of_plain firstPlain.singles
      have secondClosed : (Forest.tag separator second).Closed := closed_tag.mpr secondPlain.closed
      refine ⟨.group .conditional opener (first ++ .tag separator second) (some closer) rest, ?_,
        plain.group opens ((firstPlain.inside _).append firstPlain.closed later)
          (closed_append.mpr ⟨firstPlain.closed, secondClosed⟩) closes fun _ => ?_⟩
      · simp [flatten]
      · rw [findings_append noElse, firstPlain.findings_eq_nil, findings,
          if_pos (Tag.isBlock_of_isElse separates), separates]
        exact secondPlain.findings_eq_nil _ _
  | @loop opener _ closer _ opens _ closes _ bodyIH restIH =>
      obtain ⟨body, rfl, bodyPlain⟩ := bodyIH
      obtain ⟨rest, rfl, plain⟩ := restIH
      exact ⟨.group .loop opener body (some closer) rest, rfl,
        plain.group opens (bodyPlain.inside _) bodyPlain.closed closes
          fun _ => bodyPlain.findings_eq_nil _ _⟩
  | @verbatim opener _ closer _ opens balanced closes _ restIH =>
      obtain ⟨body, rfl, inside, bodyClosed⟩ := exists_of_balanced balanced
      obtain ⟨rest, rfl, plain⟩ := restIH
      exact ⟨.group .verbatim opener body (some closer) rest, rfl,
        plain.group opens inside bodyClosed closes fun rendered => absurd rfl rendered⟩

/-- A forest has no faults exactly if its tags are generated by the grammar. -/
theorem WellNested.findings_eq_nil_iff (nested : forest.WellNested none) :
    forest.findings none false = [] ↔ Tag.Faultless forest.flatten := by
  constructor
  · intro clean
    rcases nested.faultless_flatten clean with faultless | ⟨absent, -⟩
    · exact faultless
    · cases absent
  · intro faultless
    obtain ⟨other, flat, plain⟩ := exists_of_faultless faultless
    obtain rfl : other = forest := plain.nested.eq_of_flatten_eq nested flat
    exact plain.clean

end Forest

end Stencil

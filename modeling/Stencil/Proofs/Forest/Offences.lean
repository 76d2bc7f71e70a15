import Stencil.Proofs.Forest.Grammar
import Stencil.Proofs.Forest.Rereading
import Stencil.Proofs.Text.Places

/-!
# Offending tags

A text that is not well-formed has offending tags: opening tags of blocks that are never closed, block
tags that stand where none may stand, and opening delimiters that are never closed. Reading it strictly
reports the one of them that stands first, and where it stands.
-/

set_option autoImplicit false

namespace Stencil

/-! ## The first of some findings -/

namespace Finding

theorem earliest?_eq_some {findings : List Finding} {finding : Finding}
    (earliest : earliest? findings = some finding) :
    finding ∈ findings ∧ ∀ other ∈ findings, finding.position ≤ other.position := by
  induction findings generalizing finding with
  | nil => cases earliest
  | cons first rest ih =>
      simp only [earliest?] at earliest
      cases later : earliest? rest with
      | none =>
          rw [later] at earliest
          cases earliest
          obtain rfl := earliest?_eq_none_iff.mp later
          exact ⟨List.mem_cons_self, fun other member => by simp_all⟩
      | some candidate =>
          simp only [later, Option.some.injEq] at earliest
          obtain ⟨member, least⟩ := ih later
          split at earliest
          · next before =>
              subst earliest
              refine ⟨List.mem_cons_of_mem _ member, fun other among => ?_⟩
              rcases List.mem_cons.mp among with rfl | inRest
              · exact Nat.le_of_lt before
              · exact least other inRest
          · next notBefore =>
              subst earliest
              refine ⟨List.mem_cons_self, fun other among => ?_⟩
              rcases List.mem_cons.mp among with rfl | inRest
              · exact Nat.le_refl _
              · exact Nat.le_trans (Nat.le_of_not_lt notBefore) (least other inRest)

theorem earliest?_eq_some_iff {findings : List Finding} {finding : Finding}
    (distinct : findings.Pairwise fun first second => first.position ≠ second.position) :
    earliest? findings = some finding ↔
      finding ∈ findings ∧
        ∀ other ∈ findings, other ≠ finding → finding.position < other.position := by
  constructor
  · intro earliest
    obtain ⟨member, least⟩ := earliest?_eq_some earliest
    refine ⟨member, fun other among different => ?_⟩
    apply Nat.lt_of_le_of_ne (least other among)
    rcases eq_or_related_of_pairwise distinct member among with same | before | after
    · exact absurd same.symm different
    · exact before
    · exact after.symm
  · rintro ⟨member, least⟩
    cases earliest : earliest? findings with
    | none =>
        rw [earliest?_eq_none_iff.mp earliest] at member
        cases member
    | some first =>
        obtain ⟨among, before⟩ := earliest?_eq_some earliest
        by_cases same : first = finding
        · exact congrArg some same
        · exact absurd (before finding member) (Nat.not_le_of_lt (least first among same))

end Finding

namespace Forest

variable {forest : Forest} {text : Text} {around parent : Option Family} {elseSeen : Bool}
  {finding : Finding}

/-! ## Closed verbatim blocks -/

/-- A byte range lies in a closed verbatim block. -/
def Shelters (forest : Forest) (start stop : Nat) : Prop :=
  ∃ group ∈ forest.allGroups, ∃ closer, group.family = .verbatim ∧ group.closer = some closer ∧
    group.opener.start ≤ start ∧ stop ≤ closer.stop

theorem exists_group_of_mem_verbatimSpans {span : Span} (member : span ∈ forest.verbatimSpans) :
    ∃ group ∈ forest.allGroups, ∃ closer, group.family = .verbatim ∧ group.closer = some closer ∧
      span = ⟨group.opener.start, closer.stop⟩ := by
  induction forest with
  | nil => cases member
  | tag single rest ih => exact ih member
  | group family opener body closer rest bodyIH restIH =>
      have deeper (among : span ∈ body.verbatimSpans ++ rest.verbatimSpans) :
          ∃ group ∈ (Forest.group family opener body closer rest).allGroups, ∃ closer,
            group.family = .verbatim ∧ group.closer = some closer ∧
              span = ⟨group.opener.start, closer.stop⟩ := by
        rcases List.mem_append.mp among with inBody | inRest
        · obtain ⟨group, inside, found⟩ := bodyIH inBody
          exact ⟨group, List.mem_cons_of_mem _ (List.mem_append_left _ inside), found⟩
        · obtain ⟨group, after, found⟩ := restIH inRest
          exact ⟨group, List.mem_cons_of_mem _ (List.mem_append_right _ after), found⟩
      cases closer with
      | none => exact deeper member
      | some closing =>
          simp only [verbatimSpans] at member
          split at member
          · next verbatim =>
              rcases List.mem_cons.mp member with rfl | inRest
              · exact ⟨_, List.mem_cons_self, closing, verbatim, rfl, rfl⟩
              · exact deeper (List.mem_append_right _ inRest)
          · exact deeper member

/-- Closed verbatim blocks lie in those that lie in no other. -/
theorem exists_verbatimSpan (order : Tag.InOrder text forest.flatten) {group : Group}
    (member : group ∈ forest.allGroups) {closer : Tag} (verbatim : group.family = .verbatim)
    (closed : group.closer = some closer) :
    ∃ span ∈ forest.verbatimSpans, span.start ≤ group.opener.start ∧ closer.stop ≤ span.stop := by
  induction forest with
  | nil => cases member
  | tag single rest ih => exact ih (order.sublist (List.sublist_cons_self _ _)) member
  | group family opener body last rest bodyIH restIH =>
      rw [flatten_group] at order
      have orderBody := order.sublist ((List.sublist_append_left _ _).trans
        ((List.sublist_cons_self _ _).trans (List.sublist_append_left _ _)))
      have orderRest := order.sublist (List.sublist_append_right _ _)
      rcases List.mem_cons.mp member with rfl | deeper
      · dsimp only at verbatim closed
        subst verbatim closed
        exact ⟨⟨opener.start, closer.stop⟩, List.mem_cons_self, Nat.le_refl _, Nat.le_refl _⟩
      · rcases List.mem_append.mp deeper with inBody | inRest
        · obtain ⟨span, inside, starts, stops⟩ := bodyIH orderBody inBody
          cases last with
          | none => exact ⟨span, List.mem_append_left _ inside, starts, stops⟩
          | some closing =>
              rw [verbatimSpans]
              split
              · -- The whole block is verbatim text, and the group lies between its tags.
                obtain ⟨opens, closes⟩ := mem_flatten_of_mem_allGroups inBody
                have left : opener.stop ≤ group.opener.start :=
                  List.rel_of_pairwise_cons order.pairwise (by simp [opens])
                have right : closer.stop ≤ closing.start := by
                  have own : Tag.InOrder text ((opener :: body.flatten) ++ [closing]) :=
                    order.sublist (List.sublist_append_left _ _)
                  exact own.stop_le_start (List.mem_cons_of_mem opener (closes closer closed))
                    (List.mem_singleton_self closing)
                have openerWide := (order.liesIn opener List.mem_cons_self).start_le_stop
                have closingWide := (order.liesIn closing (by simp)).start_le_stop
                exact ⟨_, List.mem_cons_self, Nat.le_trans openerWide left,
                  Nat.le_trans right closingWide⟩
              · exact ⟨span, List.mem_append_left _ inside, starts, stops⟩
        · obtain ⟨span, inside, starts, stops⟩ := restIH orderRest inRest
          cases last with
          | none => exact ⟨span, List.mem_append_right _ inside, starts, stops⟩
          | some closing =>
              rw [verbatimSpans]
              split
              · exact ⟨span, List.mem_cons_of_mem _ inside, starts, stops⟩
              · exact ⟨span, List.mem_append_right _ inside, starts, stops⟩

/-! ## Block tags on their own -/

/-- A block tag may not stand in a block after some single tags: it is not the first separator of a
conditional block. -/
def Stray (around : Option Family) (before : List Tag) (single : Tag) : Prop :=
  single.isBlock = true ∧
    ¬(single.isElse = true ∧ around = some .conditional ∧ ∀ other ∈ before, other.isElse = false)

def StrayAmong (around : Option Family) (seen singles : List Tag) (finding : Finding) : Prop :=
  ∃ before single after, singles = before ++ single :: after ∧
    Stray around (seen ++ before) single ∧ finding = .stray single

/-- A finding is about a block itself: its opening tag, or a stray directly in it. -/
def FaultOf (group : Group) (finding : Finding) : Prop :=
  (group.closer = none ∧ finding = ⟨group.opener.start, .unclosed group.family⟩) ∨
    (group.family = .verbatim → group.closer = none) ∧
      StrayAmong (some group.family) [] group.body.singles finding

theorem strayAmong_cons_iff {seen rest : List Tag} {single : Tag} :
    StrayAmong around seen (single :: rest) finding ↔
      (Stray around seen single ∧ finding = .stray single) ∨
        StrayAmong around (seen ++ [single]) rest finding := by
  constructor
  · rintro ⟨before, stray, after, same, held⟩
    cases before with
    | nil =>
        cases same
        exact .inl (List.append_nil seen ▸ held)
    | cons head before =>
        cases same
        refine .inr ⟨before, stray, after, rfl, ?_⟩
        rwa [List.append_assoc]
  · rintro (held | ⟨before, stray, after, rfl, held⟩)
    · exact ⟨[], single, rest, rfl, (List.append_nil seen).symm ▸ held⟩
    · refine ⟨single :: before, stray, after, rfl, ?_⟩
      rwa [List.append_assoc] at held

theorem exists_mem_exposedGroups_iff {family : Family} {opener : Tag} {body rest : Forest}
    {closer : Option Tag} {holds : Group → Prop} :
    (∃ group ∈ (Forest.group family opener body closer rest).exposedGroups, holds group) ↔
      holds ⟨family, opener, body, closer⟩ ∨
        (¬(family = .verbatim ∧ closer.isSome = true) ∧ ∃ group ∈ body.exposedGroups, holds group) ∨
          ∃ group ∈ rest.exposedGroups, holds group := by
  rw [exposedGroups]
  split
  · next verbatim => simp [verbatim]
  · next rendered => simp [rendered, or_and_right, exists_or]

private theorem mem_findings_tag_iff {single : Tag} {rest : Forest} {seen : List Tag}
    (elses : parent = some .conditional → elseSeen = seen.any Tag.isElse) :
    finding ∈ (Forest.tag single rest).findings parent elseSeen ↔
      (Stray parent seen single ∧ finding = .stray single) ∨
        finding ∈ rest.findings parent (elseSeen || single.isElse) := by
  rw [findings]
  split
  · next block =>
      split
      · next allowed =>
          simp only [Bool.and_eq_true, decide_eq_true_eq, Bool.not_eq_eq_eq_not,
            Bool.not_true] at allowed
          obtain ⟨⟨separates, conditional⟩, first⟩ := allowed
          have placed : ¬Stray parent seen single := by
            rintro ⟨-, misplaced⟩
            refine misplaced ⟨separates, conditional, fun other member => ?_⟩
            have none := elses conditional
            rw [first] at none
            simpa using List.any_eq_false.mp none.symm other member
          rw [separates, Bool.or_true]
          exact ⟨.inr, fun cases => cases.resolve_left fun held => placed held.1⟩
      · next refused =>
          have stray : Stray parent seen single := by
            refine ⟨block, ?_⟩
            rintro ⟨separates, conditional, none⟩
            have first : elseSeen = false := by
              rw [elses conditional, List.any_eq_false]
              simpa using none
            simp [separates, conditional, first] at refused
          have same : rest.findings parent (elseSeen || single.isElse) =
              rest.findings parent elseSeen := by
            cases separates : single.isElse with
            | false => rw [Bool.or_false]
            | true =>
                have refuses : parent = some .conditional → elseSeen = true := by
                  intro conditional
                  simpa [separates, conditional] using refused
                rw [Bool.or_true, findings_of_refuses fun _ => rfl, findings_of_refuses refuses]
          rw [List.mem_cons, same]
          exact or_congr_left ⟨fun found => ⟨stray, found⟩, fun held => held.2⟩
  · next plain =>
      have notElse : single.isElse = false := by
        rw [Tag.isElse, Bool.eq_false_iff.mpr plain, Bool.false_and]
      rw [notElse, Bool.or_false]
      exact ⟨.inr, fun cases => cases.resolve_left fun held => plain held.1.1⟩

/-- Which faults a forest has after some single tags. -/
theorem mem_findings_iff (seen : List Tag)
    (elses : parent = some .conditional → elseSeen = seen.any Tag.isElse) :
    finding ∈ forest.findings parent elseSeen ↔
      StrayAmong parent seen forest.singles finding ∨
        ∃ group ∈ forest.exposedGroups, FaultOf group finding := by
  -- The single tags already passed decide whether a separator is the first one, so the induction
  -- carries them; the body of a group starts anew with none.
  induction forest generalizing parent elseSeen seen with
  | nil => simp [findings, singles, exposedGroups, StrayAmong]
  | tag single rest ih =>
      have elsesAfter : parent = some .conditional →
          (elseSeen || single.isElse) = (seen ++ [single]).any Tag.isElse := by
        intro conditional
        simp [elses conditional]
      rw [mem_findings_tag_iff elses, ih (seen ++ [single]) elsesAfter, singles, strayAmong_cons_iff,
        or_assoc]
      rfl
  | group family opener body closer rest bodyIH restIH =>
      have inside : finding ∈ body.findings (some family) false ↔
          StrayAmong (some family) [] body.singles finding ∨
            ∃ group ∈ body.exposedGroups, FaultOf group finding :=
        bodyIH [] fun _ => rfl
      have after := restIH seen elses
      rw [exists_mem_exposedGroups_iff, singles]
      cases closer with
      | none =>
          have own : FaultOf ⟨family, opener, body, none⟩ finding ↔
              finding = ⟨opener.start, .unclosed family⟩ ∨
                StrayAmong (some family) [] body.singles finding := by
            simp [FaultOf]
          rw [findings, List.mem_cons, List.mem_append, inside, after, own]
          simp only [Option.isSome_none, Bool.false_eq_true, and_false, not_false_eq_true, true_and]
          exact iff_of_eq (by ac_rfl)
      | some closing =>
          have own : FaultOf ⟨family, opener, body, some closing⟩ finding ↔
              family ≠ .verbatim ∧ StrayAmong (some family) [] body.singles finding := by
            simp [FaultOf]
          rw [findings, own]
          simp only [Option.isSome_some, and_true]
          split
          · next verbatim =>
              rw [after]
              simp only [verbatim, ne_eq, not_true_eq_false, false_and, false_or]
          · next rendered =>
              rw [List.mem_append, inside, after]
              simp only [rendered, ne_eq, not_false_eq_true, true_and]
              exact iff_of_eq (by ac_rfl)

/-! ## Offences -/

/-- Single tags that stand side by side outside of all closed verbatim blocks, and the family of the
block around them. -/
inductive Row (forest : Forest) : Option Family → List Tag → Prop where
  | outside : Row forest none forest.singles
  | inside {group : Group} :
      group ∈ forest.exposedGroups → (group.family = .verbatim → group.closer = none) →
      Row forest (some group.family) group.body.singles

def Misplaced (forest : Forest) (single : Tag) : Prop :=
  ∃ around before after, forest.Row around (before ++ single :: after) ∧ Stray around before single

/-- The malformed tags of a text: unclosed blocks, block tags where none may stand, which are
separators and closing tags or have keywords of no meaning, and delimiters that are left open outside of
closed verbatim blocks. -/
inductive Offence (forest : Forest) (unterminated : List Occurrence) : Finding → Prop where
  | unclosed {group : Group} :
      group ∈ forest.allGroups → group.closer = none →
      Offence forest unterminated ⟨group.opener.start, .unclosed group.family⟩
  | unexpected {single : Tag} :
      forest.Misplaced single → single.isElse = true ∨ single.closes?.isSome = true →
      Offence forest unterminated ⟨single.start, .unexpected single.keyword⟩
  | unknown {single : Tag} :
      forest.Misplaced single → single.isElse = false → single.closes? = none →
      Offence forest unterminated ⟨single.start, .unknown single.keyword⟩
  | unterminated {opening : Occurrence} :
      opening ∈ unterminated → ¬forest.Shelters opening.position opening.stop →
      Offence forest unterminated ⟨opening.position, .unterminated opening.lexeme⟩

variable {unterminated : List Occurrence}

theorem offence_stray {single : Tag} (misplaced : forest.Misplaced single) :
    forest.Offence unterminated (.stray single) := by
  rw [Finding.stray]
  split
  · next known =>
      rw [Bool.or_eq_true] at known
      exact .unexpected misplaced known
  · next unknown =>
      simp only [Bool.or_eq_true, not_or, Bool.not_eq_true, Option.isSome_eq_false_iff,
        Option.isNone_iff_eq_none] at unknown
      exact .unknown misplaced unknown.1 unknown.2

theorem mem_findings_of_misplaced {single : Tag} (misplaced : forest.Misplaced single) :
    Finding.stray single ∈ forest.findings none false := by
  obtain ⟨around, before, after, row, stray⟩ := misplaced
  apply (mem_findings_iff [] fun _ => rfl).mpr
  generalize same : before ++ single :: after = singles at row
  cases row with
  | outside => exact .inl ⟨before, single, after, same.symm, stray, rfl⟩
  | inside exposed unprotected =>
      exact .inr ⟨_, exposed, .inr ⟨unprotected, before, single, after, same.symm, stray, rfl⟩⟩

theorem mem_exposedGroups_of_unclosed (nested : forest.WellNested around) {group : Group}
    (member : group ∈ forest.allGroups) (unclosed : group.closer = none) :
    group ∈ forest.exposedGroups := by
  induction forest generalizing around with
  | nil => cases member
  | tag single rest ih => exact ih nested.2.2 member
  | group family opener body closer rest bodyIH restIH =>
      obtain ⟨-, inside, closes, -, later⟩ := nested
      rw [exposedGroups]
      rcases List.mem_cons.mp member with rfl | deeper
      · exact List.mem_cons_self
      · apply List.mem_cons_of_mem
        rcases List.mem_append.mp deeper with inBody | inRest
        · apply List.mem_append_left
          split
          · next protects =>
              obtain ⟨closing, same⟩ := Option.isSome_iff_exists.mp protects.2
              have closed := (closes closing same).2 group inBody
              rw [unclosed] at closed
              cases closed
          · exact bodyIH inside inBody
        · exact List.mem_append_right _ (restIH later inRest)

/-- What is left open among some tags: delimiters one after the other, and none in a tag. -/
structure LeftOpen (unterminated : List Occurrence) (tags : List Tag) : Prop where
  pairwise : unterminated.Pairwise fun earlier later => earlier.stop ≤ later.position
  wide : ∀ opening ∈ unterminated, opening.position < opening.stop
  apart : ∀ opening ∈ unterminated, ∀ tag ∈ tags,
    opening.stop ≤ tag.start ∨ tag.stop ≤ opening.position

/-- The closed verbatim blocks that shelter a delimiter that is left open. -/
theorem shelters_iff (order : Tag.InOrder text forest.flatten)
    (leftOpen : LeftOpen unterminated forest.flatten) {opening : Occurrence}
    (member : opening ∈ unterminated) :
    forest.Shelters opening.position opening.stop ↔
      ∃ span ∈ forest.verbatimSpans, span.contains opening.position = true := by
  have wide := leftOpen.wide opening member
  simp only [Span.contains_iff]
  constructor
  · rintro ⟨group, among, closer, verbatim, closed, starts, stops⟩
    obtain ⟨span, spans, first, last⟩ := exists_verbatimSpan order among verbatim closed
    exact ⟨span, spans, by omega, by omega⟩
  · rintro ⟨span, spans, starts, stops⟩
    obtain ⟨group, among, closer, verbatim, closed, rfl⟩ := exists_group_of_mem_verbatimSpans spans
    have closes := (mem_flatten_of_mem_allGroups among).2 closer closed
    have closerWide := (order.liesIn closer closes).start_le_stop
    refine ⟨group, among, closer, verbatim, closed, starts, ?_⟩
    rcases leftOpen.apart opening member closer closes with before | after
    · exact Nat.le_trans before closerWide
    · exact absurd after (Nat.not_le_of_lt stops)

/-- The faults that strict reading looks for are the offences. -/
theorem mem_allFindings_iff (nested : forest.WellNested none)
    (order : Tag.InOrder text forest.flatten) (leftOpen : LeftOpen unterminated forest.flatten) :
    finding ∈ forest.allFindings unterminated ↔ forest.Offence unterminated finding := by
  have exposed (opening : Occurrence) (member : opening ∈ unterminated) :
      (!forest.verbatimSpans.any (·.contains opening.position)) = true ↔
        ¬forest.Shelters opening.position opening.stop := by
    rw [shelters_iff order leftOpen member, Bool.not_eq_true', ← Bool.not_eq_true, List.any_eq_true]
  rw [allFindings, List.mem_append, List.mem_map]
  simp only [List.mem_filter]
  constructor
  · rintro (fault | ⟨opening, ⟨member, bare⟩, rfl⟩)
    · rcases (mem_findings_iff [] fun _ => rfl).mp fault with
        ⟨before, single, after, same, stray, rfl⟩ |
        ⟨group, member, ⟨unclosed, rfl⟩ | ⟨unprotected, before, single, after, same, stray, rfl⟩⟩
      · exact offence_stray ⟨none, before, after, same ▸ .outside, stray⟩
      · exact .unclosed (allGroups_of_mem_exposedGroups member) unclosed
      · exact offence_stray ⟨_, before, after, same ▸ .inside member unprotected, stray⟩
    · exact .unterminated member ((exposed opening member).mp bare)
  · intro offence
    cases offence with
    | unclosed member unclosed =>
        refine .inl ((mem_findings_iff [] fun _ => rfl).mpr (.inr ⟨_, ?_, .inl ⟨unclosed, rfl⟩⟩))
        exact mem_exposedGroups_of_unclosed nested member unclosed
    | @unexpected single misplaced known =>
        have same : Finding.stray single = ⟨single.start, .unexpected single.keyword⟩ := by
          rw [Finding.stray, if_pos (Bool.or_eq_true _ _ ▸ known)]
        exact .inl (same ▸ mem_findings_of_misplaced misplaced)
    | @unknown single misplaced notElse notCloser =>
        have same : Finding.stray single = ⟨single.start, .unknown single.keyword⟩ := by
          simp [Finding.stray, notElse, notCloser]
        exact .inl (same ▸ mem_findings_of_misplaced misplaced)
    | @unterminated opening member bare =>
        exact .inr ⟨opening, ⟨member, (exposed opening member).mpr bare⟩, rfl⟩

/-! ## The offence that is reported -/

theorem positions_findings_sublist (parent : Option Family) (elseSeen : Bool) :
    ((forest.findings parent elseSeen).map Finding.position).Sublist
      (forest.flatten.map Tag.start) := by
  induction forest generalizing parent elseSeen with
  | nil => exact .slnil
  | tag single rest ih =>
      rw [findings]
      split
      · split
        · exact (ih _ _).cons _
        · exact (ih _ _).cons_cons _
      · exact (ih _ _).cons _
  | group family opener body closer rest bodyIH restIH =>
      have inside := bodyIH (some family) false
      have after := restIH parent elseSeen
      cases closer with
      | none =>
          simp only [findings, flatten, Option.toList_none, List.nil_append, List.map_cons,
            List.map_append]
          exact (inside.append after).cons_cons _
      | some closing =>
          simp only [findings, flatten, Option.toList_some, List.map_cons, List.map_append,
            List.singleton_append]
          split
          · exact ((after.cons _).trans (List.sublist_append_right _ _)).cons _
          · rw [List.map_append]
            exact (inside.append (after.cons _)).cons _

/-- No two faults of a text stand at the same place. -/
theorem pairwise_allFindings (order : Tag.InOrder text forest.flatten)
    (wide : ∀ tag ∈ forest.flatten, tag.start < tag.stop)
    (leftOpen : LeftOpen unterminated forest.flatten) :
    (forest.allFindings unterminated).Pairwise
      fun first second => first.position ≠ second.position := by
  have starts : (forest.flatten.map Tag.start).Pairwise (· < ·) := by
    rw [List.pairwise_map]
    exact order.pairwise.imp_of_mem fun member _ before => Nat.lt_of_lt_of_le (wide _ member) before
  have sublist := forest.positions_findings_sublist none false
  have faults := List.pairwise_map.mp (starts.sublist sublist)
  have openings := leftOpen.pairwise.sublist
    (@List.filter_sublist _ (fun opening =>
      !forest.verbatimSpans.any (·.contains opening.position)) _)
  rw [allFindings, List.pairwise_append, List.pairwise_map]
  -- A fault stands at the start of a tag, and no tag starts where a delimiter is left open.
  refine ⟨faults.imp Nat.ne_of_lt, ?_, ?_⟩
  · refine openings.imp_of_mem fun member _ before => Nat.ne_of_lt ?_
    exact Nat.lt_of_lt_of_le (leftOpen.wide _ (List.mem_filter.mp member).1) before
  · intro fault among finding member
    obtain ⟨opening, exposed, rfl⟩ := List.mem_map.mp member
    obtain ⟨tag, flat, start⟩ := List.mem_map.mp (sublist.subset (List.mem_map_of_mem among))
    have opens := (List.mem_filter.mp exposed).1
    have opensWide := leftOpen.wide opening opens
    have tagWide := wide tag flat
    rcases leftOpen.apart opening opens tag flat with before | after
    · exact start ▸ Nat.ne_of_gt (Nat.lt_of_lt_of_le opensWide before)
    · exact start ▸ Nat.ne_of_lt (Nat.lt_of_lt_of_le tagWide after)

end Forest

theorem Pairing.leftOpen_ofText (delimiters : Delimiters) (text : Text) :
    Forest.LeftOpen (ofText delimiters text).unterminated (ofText delimiters text).tags := by
  rw [ofText_eq_pairPlainly]
  have order := pairwise_occurrences delimiters.variableOpen delimiters.blockOpen text
  constructor
  · exact order.sublist (unterminated_sublist_pairPlainly _ _)
  · intro opening left
    exact Occurrence.position_lt_stop
      (delimiters.lexeme_ne_nil (mem_unterminated_pairPlainly left))
  · intro opening left tag made
    exact apart_of_mem_unterminated order left made

namespace Forest

variable {delimiters : Delimiters} {limit : Nat} {text : Text} {forest : Forest}

theorem parse_strict_eq_error_iff
    (lenient : parse delimiters .lenient limit text = .ok forest) {error : TemplateError} :
    parse delimiters .strict limit text = .error error ↔
      ∃ finding, Finding.earliest?
          (forest.allFindings (Pairing.ofText delimiters text).unterminated) = some finding ∧
        error = finding.toError text := by
  simp only [parse, parse_lenient_eq_ok_iff.mp lenient]
  cases Finding.earliest? (forest.allFindings (Pairing.ofText delimiters text).unterminated) with
  | none => simp
  | some finding => simp [eq_comm]

/-- A text that is not nested too deep is read strictly exactly if its tags are generated by the grammar
and all delimiters that are left open lie in closed verbatim blocks. Otherwise the offence that
stands first is reported, with the line and the column where it stands. -/
theorem parse_strict_of_lenient (lenient : parse delimiters .lenient limit text = .ok forest) :
    (parse delimiters .strict limit text = .ok forest ↔
        Tag.Faultless (Pairing.ofText delimiters text).tags ∧
          ∀ opening ∈ (Pairing.ofText delimiters text).unterminated,
            forest.Shelters opening.position opening.stop) ∧
      (∀ other, parse delimiters .strict limit text = .ok other → other = forest) ∧
      ∀ error, parse delimiters .strict limit text = .error error ↔
        ∃ finding, forest.Offence (Pairing.ofText delimiters text).unterminated finding ∧
          (∀ other, forest.Offence (Pairing.ofText delimiters text).unterminated other →
            other ≠ finding → finding.position < other.position) ∧
          error = ⟨⟨1 + (text.takeBytes finding.position).count '\n',
            1 + ((text.takeBytes finding.position).reverse.takeWhile (· != '\n')).length⟩,
              finding.fault⟩ := by
  have made := parse_lenient_eq_ok_iff.mp lenient
  obtain ⟨nested, -, flat⟩ := of_ofTags made
  have order := inOrder_of_parse lenient
  have leftOpen := flat ▸ Pairing.leftOpen_ofText delimiters text
  have wide : ∀ tag ∈ forest.flatten, tag.start < tag.stop := by
    intro tag member
    exact Pairing.start_lt_stop_of_mem (flat ▸ member)
  refine ⟨?_, ?_, ?_⟩
  · rw [parse_strict_eq_ok_iff, allFindings_eq_nil_iff, nested.findings_eq_nil_iff, flat]
    have sheltered (opening : Occurrence)
        (member : opening ∈ (Pairing.ofText delimiters text).unterminated) :
        forest.Shelters opening.position opening.stop ↔
          ∃ span ∈ forest.verbatimSpans, span.contains opening.position = true :=
      shelters_iff order leftOpen member
    rw [and_iff_right made, forall₂_congr sheltered]
  · intro other strict
    have again := (parse_strict_eq_ok_iff.mp strict).1
    exact Except.ok.inj (again.symm.trans made)
  · intro error
    rw [parse_strict_eq_error_iff lenient]
    have distinct := pairwise_allFindings order wide leftOpen
    simp only [Finding.earliest?_eq_some_iff distinct, mem_allFindings_iff nested order leftOpen,
      Finding.toError, Place.ofPosition_eq, and_assoc]

/-- A conditional block with two branches around verbatim text with a delimiter that is left open, and
the same without its closing tag. -/
theorem parse_strict_of_lenient_branches :
    let whole : Text := "{% if x %}é{% else %}{% raw %}\x7b\x7b{% endraw %}{% endif %}".toList
    let cut : Text := "é\nä{% if x %}{% else %}{% else %}".toList
    (∃ forest, parse .standard .lenient 2 whole = .ok forest ∧
        Tag.Faultless (Pairing.ofText .standard whole).tags ∧
          ∀ opening ∈ (Pairing.ofText .standard whole).unterminated,
            forest.Shelters opening.position opening.stop) ∧
      ∃ forest, parse .standard .lenient 2 cut = .ok forest ∧
        ∃ finding, forest.Offence (Pairing.ofText .standard cut).unterminated finding ∧
          (∀ other, forest.Offence (Pairing.ofText .standard cut).unterminated other →
            other ≠ finding → finding.position < other.position) ∧
          finding.fault = .unclosed .conditional := by
  intro whole cut
  constructor
  · obtain ⟨forest, lenient, strict⟩ : ∃ forest, parse .standard .lenient 2 whole = .ok forest ∧
        parse .standard .strict 2 whole = .ok forest :=
      ⟨_, rfl, by decide +kernel⟩
    exact ⟨forest, lenient, (parse_strict_of_lenient lenient).1.mp strict⟩
  · obtain ⟨forest, lenient⟩ : ∃ forest, parse .standard .lenient 2 cut = .ok forest := ⟨_, rfl⟩
    have strict : parse .standard .strict 2 cut = .error ⟨⟨2, 2⟩, .unclosed .conditional⟩ := by
      decide +kernel
    obtain ⟨finding, offence, first, same⟩ := ((parse_strict_of_lenient lenient).2.2 _).mp strict
    exact ⟨forest, lenient, finding, offence, first, (congrArg TemplateError.fault same).symm⟩

end Forest

end Stencil

import Stencil.Proofs.Forest.Parts

/-!
# Nesting with a stack

Nesting does what a machine with a stack of open groups does, one tag after the other: the machine
puts a group on the stack at an opening tag, takes the top group off at its closing tag, and leaves
the stack alone at every other tag. Tags are known by their numbers, so that equal tags at different
places are told apart.
-/

set_option autoImplicit false

namespace Stencil

namespace StackMachine

/-- An open group: the number of its opening tag, and its family. -/
structure Entry where
  opener : Nat
  family : Family
  deriving DecidableEq, Repr

/-- What happens at a tag. Groups are known by the numbers of their opening tags. -/
inductive Move where
  /-- A group is put on the stack. -/
  | opens
  /-- The group on top is taken off the stack. -/
  | closes (opener : Nat)
  /-- The stack is left alone, with a group on top or without any. -/
  | stands (around : Option Nat)
  deriving DecidableEq, Repr

/-- Reads the tag with a number. An opening tag is refused when the stack is full. -/
def step (limit number : Nat) (tag : Tag) (stack : List Entry) : Option (Move × List Entry) :=
  match tag.opens? with
  | some family =>
      if limit ≤ stack.length then none else some (.opens, ⟨number, family⟩ :: stack)
  | none =>
      match stack with
      | [] => some (.stands none, [])
      | top :: below =>
          if tag.closes? = some top.family then some (.closes top.opener, below)
          else some (.stands top.opener, top :: below)

/-- What has happened at each tag, and the groups that are still open, from the innermost out. -/
structure Run where
  moves : List Move
  stack : List Entry
  deriving DecidableEq, Repr

def Run.after (moves : List Move) (run : Run) : Run := { run with moves := moves ++ run.moves }

/-- Reads tags whose numbers start with `number`. If a tag is refused, its number is the failure. -/
def run (limit : Nat) : (number : Nat) → List Tag → List Entry → Except Nat Run
  | _, [], stack => .ok ⟨[], stack⟩
  | number, tag :: tags, stack =>
      match step limit number tag stack with
      | none => .error number
      | some (move, next) => (run limit (number + 1) tags next).map (.after [move])

end StackMachine

/-! ## The groups of a forest by number -/

namespace Forest

open StackMachine

/-- What a machine that builds this forest does at each of its tags. The numbers of the tags start
with `number`, and `around` is the group that the forest lies in. -/
def moves : (around : Option Nat) → (number : Nat) → Forest → List Move
  | _, _, nil => []
  | around, number, tag _ rest => .stands around :: moves around (number + 1) rest
  | around, number, group _ _ body closer rest =>
      .opens :: (moves (some number) (number + 1) body ++
        (closer.toList.map (fun _ => .closes number) ++
          moves around (number + 1 + body.flatten.length + closer.toList.length) rest))

/-- The groups at any depth, each with the number of its opening tag. -/
def numberedGroups : (number : Nat) → Forest → List (Nat × Group)
  | _, nil => []
  | number, tag _ rest => numberedGroups (number + 1) rest
  | number, group family opener body closer rest =>
      (number, ⟨family, opener, body, closer⟩) ::
        (numberedGroups (number + 1) body ++
          numberedGroups (number + 1 + body.flatten.length + closer.toList.length) rest)

/-- The groups without a closing tag, from the outermost in. -/
def openEntries (number : Nat) (forest : Forest) : List Entry :=
  ((forest.numberedGroups number).filter (·.2.closer.isNone)).map fun numbered =>
    ⟨numbered.1, numbered.2.family⟩

def levels (forest : Forest) : List Forest := forest :: forest.allGroups.map Group.body

variable {forest : Forest} {number : Nat}

theorem map_snd_numberedGroups (number : Nat) (forest : Forest) :
    (forest.numberedGroups number).map Prod.snd = forest.allGroups := by
  induction forest generalizing number with
  | nil => rfl
  | tag single rest ih => exact ih _
  | group family opener body closer rest bodyIH restIH =>
      simp only [numberedGroups, allGroups, List.map_cons, List.map_append, bodyIH, restIH]

theorem openEntries_of_closed (closed : forest.Closed) : forest.openEntries number = [] := by
  have filtered : (forest.numberedGroups number).filter (·.2.closer.isNone) = [] := by
    refine List.filter_eq_nil_iff.mpr fun numbered member => ?_
    have among : numbered.2 ∈ forest.allGroups := by
      rw [← map_snd_numberedGroups number]
      exact List.mem_map_of_mem member
    simp [Option.isSome_iff_ne_none.mp (closed _ among)]
  rw [openEntries, filtered, List.map_nil]

/-- The number of a group is the place of its opening tag. -/
theorem exists_flatten_of_mem_numberedGroups {numbered : Nat × Group}
    (member : numbered ∈ forest.numberedGroups number) :
    ∃ before after, forest.flatten = before ++ numbered.2.opener ::
        (numbered.2.body.flatten ++ (numbered.2.closer.toList ++ after)) ∧
      numbered.1 = number + before.length := by
  induction forest generalizing number with
  | nil => cases member
  | tag single rest ih =>
      obtain ⟨before, after, same, place⟩ := ih member
      refine ⟨single :: before, after, by rw [flatten, same]; rfl, ?_⟩
      rw [place, List.length_cons]
      omega
  | group family opener body closer rest bodyIH restIH =>
      rcases List.mem_cons.mp member with rfl | deeper
      · exact ⟨[], rest.flatten, rfl, rfl⟩
      · rcases List.mem_append.mp deeper with inBody | inRest
        · obtain ⟨before, after, same, place⟩ := bodyIH inBody
          refine ⟨opener :: before, after ++ (closer.toList ++ rest.flatten), ?_, ?_⟩
          · rw [flatten, same]
            simp
          · rw [place, List.length_cons]
            omega
        · obtain ⟨before, after, same, place⟩ := restIH inRest
          refine ⟨opener :: (body.flatten ++ (closer.toList ++ before)), after, ?_, ?_⟩
          · rw [flatten, same]
            simp
          · rw [place]
            simp only [List.length_cons, List.length_append]
            omega

private theorem lt_of_mem_numberedGroups {numbered : Nat × Group}
    (member : numbered ∈ forest.numberedGroups number) :
    number ≤ numbered.1 ∧ numbered.1 < number + forest.flatten.length := by
  obtain ⟨before, after, same, place⟩ := exists_flatten_of_mem_numberedGroups member
  have lengths := congrArg List.length same
  simp only [List.length_append, List.length_cons] at lengths
  omega

theorem pairwise_numberedGroups (number : Nat) (forest : Forest) :
    (forest.numberedGroups number).Pairwise fun earlier later => earlier.1 < later.1 := by
  induction forest generalizing number with
  | nil => exact .nil
  | tag single rest ih => exact ih _
  | group family opener body closer rest bodyIH restIH =>
      rw [numberedGroups, List.pairwise_cons, List.pairwise_append]
      refine ⟨?_, bodyIH _, restIH _, ?_⟩
      · intro later member
        rcases List.mem_append.mp member with inBody | inRest
        · have := lt_of_mem_numberedGroups inBody
          omega
        · have := lt_of_mem_numberedGroups inRest
          omega
      · intro earlier inBody later inRest
        have := lt_of_mem_numberedGroups inBody
        have := lt_of_mem_numberedGroups inRest
        omega

theorem closer_eq_none_iff_mem_openEntries {numbered : Nat × Group}
    (member : numbered ∈ forest.numberedGroups number) :
    numbered.2.closer = none ↔
      ⟨numbered.1, numbered.2.family⟩ ∈ forest.openEntries number := by
  constructor
  · intro unclosed
    refine List.mem_map.mpr ⟨numbered, List.mem_filter.mpr ⟨member, ?_⟩, rfl⟩
    simp [unclosed]
  · intro among
    obtain ⟨other, kept, same⟩ := List.mem_map.mp among
    obtain ⟨otherMember, unclosed⟩ := List.mem_filter.mp kept
    have number : other.1 = numbered.1 := congrArg Entry.opener same
    obtain rfl : other = numbered := by
      rcases eq_or_related_of_pairwise (pairwise_numberedGroups _ _) otherMember member with
        same | before | after
      · exact same
      · omega
      · omega
    exact Option.isNone_iff_eq_none.mp unclosed

theorem WellNested.eq_nil_of_unclosed {around : Option Family} {before body after : Forest}
    {family : Family} {opener : Tag}
    (nested : (before ++ group family opener body none after).WellNested around) : after = nil := by
  obtain ⟨-, -, -, last, -⟩ := nested.of_append.2
  exact last rfl

end Forest

/-! ## Runs over forests -/

namespace StackMachine

variable {limit number : Nat} {tag : Tag} {family : Family} {stack : List Entry}

def families (stack : List Entry) : List Family := stack.map Entry.family

def top? (stack : List Entry) : Option Nat := stack.head?.map Entry.opener

theorem length_families (stack : List Entry) : (families stack).length = stack.length :=
  List.length_map _

theorem map_after_after (first second : List Move) (result : Except Nat Run) :
    (result.map (Run.after second)).map (Run.after first) =
      result.map (Run.after (first ++ second)) := by
  have after_after (run : Run) : (run.after second).after first = run.after (first ++ second) := by
    simp only [Run.after, List.append_assoc]
  rw [map_map]
  simp only [after_after]

/-! ### One tag at a time -/

theorem run_of_opens (opens : tag.opens? = some family) (tags : List Tag) :
    run limit number (tag :: tags) stack =
      if limit ≤ stack.length then .error number
      else (run limit (number + 1) tags (⟨number, family⟩ :: stack)).map (.after [.opens]) := by
  by_cases full : limit ≤ stack.length <;> simp [run, step, opens, full]

theorem run_of_closes {opener : Nat} (closes : tag.closes? = some family) (tags : List Tag) :
    run limit number (tag :: tags) (⟨opener, family⟩ :: stack) =
      (run limit (number + 1) tags stack).map (.after [.closes opener]) := by
  simp [run, step, Tag.opens?_eq_none_of_closes? closes, closes]

theorem run_of_stays (opensNone : tag.opens? = none)
    (stays : ∀ family, (families stack).head? = some family → tag.closes? ≠ some family)
    (tags : List Tag) :
    run limit number (tag :: tags) stack =
      (run limit (number + 1) tags stack).map (.after [.stands (top? stack)]) := by
  cases stack with
  | nil => simp [run, step, opensNone, top?]
  | cons top below => simp [run, step, opensNone, top?, stays top.family rfl]

/-- The machine refuses nothing but opening tags. -/
theorem step_eq_none_iff :
    step limit number tag stack = none ↔ tag.opens?.isSome = true ∧ limit ≤ stack.length := by
  unfold step
  cases tag.opens? with
  | some family => simp
  | none =>
      cases stack with
      | nil => simp
      | cons top below => by_cases closes : tag.closes? = some top.family <;> simp [closes]

theorem exists_opener_of_run_eq_error {tags : List Tag} {refused : Nat}
    (failed : run limit number tags stack = .error refused) :
    ∃ before opener after, tags = before ++ opener :: after ∧ refused = number + before.length ∧
      opener.opens?.isSome = true := by
  induction tags generalizing number stack with
  | nil => cases failed
  | cons tag tags ih =>
      rw [run] at failed
      cases taken : step limit number tag stack with
      | none =>
          rw [taken] at failed
          cases failed
          exact ⟨[], tag, tags, rfl, rfl, (step_eq_none_iff.mp taken).1⟩
      | some next =>
          rw [taken] at failed
          obtain ⟨before, opener, after, same, length, opens⟩ := ih (map_eq_error_iff.mp failed)
          refine ⟨tag :: before, opener, after, congrArg (tag :: ·) same, ?_, opens⟩
          rw [length, List.length_cons, Nat.add_comm before.length, ← Nat.add_assoc]

/-- Over the tags of a closed forest the machine builds that forest and leaves the stack as it was. -/
theorem run_flatten_append {forest : Forest}
    (nested : forest.WellNested (families stack).head?) (closed : forest.Closed)
    (bound : stack.length + forest.height ≤ limit) (tags : List Tag) :
    run limit number (forest.flatten ++ tags) stack =
      (run limit (number + forest.flatten.length) tags stack).map
        (.after (forest.moves (top? stack) number)) := by
  induction forest generalizing number stack tags with
  | nil =>
      simp only [Forest.flatten, Forest.moves, List.nil_append, List.length_nil, Nat.add_zero]
      cases run limit number tags stack <;> rfl
  | tag single rest ih =>
      obtain ⟨opensNone, stays, nested⟩ := nested
      have length : number + (Forest.tag single rest).flatten.length =
          number + 1 + rest.flatten.length := by
        simp only [Forest.flatten, List.length_cons]
        omega
      rw [length, Forest.flatten, List.cons_append, run_of_stays opensNone stays,
        ih nested closed bound, map_after_after]
      rfl
  | group family opener body closer rest bodyIH restIH =>
      obtain ⟨opens, inside, closes, -, nested⟩ := nested
      -- The body is read with its group on the stack, and the rest with the stack of before.
      obtain ⟨isClosed, bodyClosed, restClosed⟩ := Forest.closed_group.mp closed
      obtain ⟨closing, rfl⟩ := Option.isSome_iff_exists.mp isClosed
      simp only [Forest.height] at bound
      have room : ¬limit ≤ stack.length := by omega
      have flat : (Forest.group family opener body (some closing) rest).flatten ++ tags =
          opener :: (body.flatten ++ closing :: (rest.flatten ++ tags)) := by
        simp [Forest.flatten]
      have length : number + (Forest.group family opener body (some closing) rest).flatten.length =
          number + 1 + body.flatten.length + 1 + rest.flatten.length := by
        simp only [Forest.flatten, List.length_cons, List.length_append, Option.toList_some,
          List.length_nil]
        omega
      have bodyNested : body.WellNested (families (⟨number, family⟩ :: stack)).head? := inside
      have bodyBound : (⟨number, family⟩ :: stack).length + body.height ≤ limit := by
        rw [List.length_cons]
        omega
      rw [flat, length, run_of_opens opens, if_neg room, bodyIH bodyNested bodyClosed bodyBound,
        run_of_closes (closes closing rfl).1, restIH nested restClosed (by omega), map_after_after,
        map_after_after, map_after_after, List.append_assoc, List.append_assoc]
      rfl

/-- Over the tags of a well-nested forest the machine builds that forest, and it puts the groups
without a closing tag on the stack. -/
theorem run_flatten {forest : Forest} (nested : forest.WellNested (families stack).head?)
    (bound : stack.length + forest.height ≤ limit) :
    run limit number forest.flatten stack =
      .ok ⟨forest.moves (top? stack) number, (forest.openEntries number).reverse ++ stack⟩ := by
  induction forest generalizing number stack with
  | nil => rfl
  | tag single rest ih =>
      obtain ⟨opensNone, stays, nested⟩ := nested
      rw [Forest.flatten, run_of_stays opensNone stays, ih nested bound]
      rfl
  | group family opener body closer rest bodyIH restIH =>
      obtain ⟨opens, inside, closes, last, nested⟩ := nested
      simp only [Forest.height] at bound
      have room : ¬limit ≤ stack.length := by omega
      have bodyNested : body.WellNested (families (⟨number, family⟩ :: stack)).head? := inside
      have bodyBound : (⟨number, family⟩ :: stack).length + body.height ≤ limit := by
        rw [List.length_cons]
        omega
      cases closer with
      | none =>
          obtain rfl := last rfl
          have flat : (Forest.group family opener body none .nil).flatten =
              opener :: body.flatten := by
            simp [Forest.flatten]
          rw [flat, run_of_opens opens, if_neg room, bodyIH bodyNested bodyBound]
          simp [Except.map, Run.after, Forest.moves, Forest.openEntries, Forest.numberedGroups,
            top?]
      | some closing =>
          have flat : (Forest.group family opener body (some closing) rest).flatten =
              opener :: (body.flatten ++ closing :: rest.flatten) := by
            simp [Forest.flatten]
          obtain ⟨closesIt, bodyClosed⟩ := closes closing rfl
          have none : body.openEntries (number + 1) = [] := Forest.openEntries_of_closed bodyClosed
          rw [flat, run_of_opens opens, if_neg room,
            run_flatten_append bodyNested bodyClosed bodyBound, run_of_closes closesIt,
            restIH nested (by omega)]
          simp [Except.map, Run.after, Forest.moves, Forest.openEntries, Forest.numberedGroups,
            top?] at none ⊢
          exact none

/-- Where nesting fails, the machine fails at the same tag. -/
theorem run_of_nestUnder_eq_error (number : Nat) {tags : List Tag} {tooDeep : TooDeep}
    (failed : nestUnder limit tags (families stack) = .error tooDeep) :
    ∃ before tag after, tags = before ++ tag :: after ∧ tooDeep = ⟨tag.start, limit⟩ ∧
      run limit number tags stack = .error (number + before.length) := by
  induction tags generalizing number stack with
  | nil => cases failed
  | cons tag tags ih =>
      -- The failure lies among the later tags, which are numbered from one further on.
      have later {next : List Entry} {move : Move}
          (step : run limit number (tag :: tags) stack =
            (run limit (number + 1) tags next).map (.after [move]))
          (inside : nestUnder limit tags (families next) = .error tooDeep) :
          ∃ before refused after, tag :: tags = before ++ refused :: after ∧
            tooDeep = ⟨refused.start, limit⟩ ∧
              run limit number (tag :: tags) stack = .error (number + before.length) := by
        obtain ⟨before, refused, after, rfl, same, fails⟩ := ih (number + 1) inside
        refine ⟨tag :: before, refused, after, rfl, same, ?_⟩
        rw [step, fails, List.length_cons, Nat.add_comm before.length, ← Nat.add_assoc]
        rfl
      cases opens : tag.opens? with
      | some family =>
          have lengths := length_families stack
          rw [nestUnder_of_opens opens] at failed
          by_cases full : limit ≤ stack.length
          · rw [if_pos (by omega)] at failed
            cases failed
            refine ⟨[], tag, tags, rfl, rfl, ?_⟩
            rw [run_of_opens opens, if_pos full]
            rfl
          · rw [if_neg (by omega)] at failed
            exact later ((run_of_opens opens tags).trans (if_neg full)) (map_eq_error_iff.mp failed)
      | none =>
          rcases closes_or_stays tag (families stack) with ⟨family, outer, same, closes⟩ | stays
          · obtain ⟨⟨opener, family⟩, below, rfl, rfl, rfl⟩ := List.map_eq_cons_iff.mp same
            rw [families, List.map_cons, nestUnder_of_closes closes] at failed
            exact later (run_of_closes closes tags) (map_eq_error_iff.mp failed)
          · rw [nestUnder_of_stays opens stays] at failed
            exact later (run_of_stays opens stays tags) (map_eq_error_iff.mp failed)

/-- The forest is what a finished run over some tags has built. -/
structure Run.Builds (run : Run) (tags : List Tag) (forest : Forest) : Prop where
  flatten : forest.flatten = tags
  moves : run.moves = forest.moves none 0
  placed : ∀ numbered ∈ forest.numberedGroups 0, ∃ before after,
    tags = before ++ numbered.2.opener ::
        (numbered.2.body.flatten ++ (numbered.2.closer.toList ++ after)) ∧
      numbered.1 = before.length
  unclosed_iff : ∀ numbered ∈ forest.numberedGroups 0,
    numbered.2.closer = none ↔ ⟨numbered.1, numbered.2.family⟩ ∈ run.stack
  last : ∀ level ∈ forest.levels, ∀ before family opener body after,
    level = before ++ .group family opener body none after → after = .nil
  ancestors : ∀ group ∈ forest.allGroups, group.closer ≠ none → group.body.Closed

theorem builds_of_wellNested {forest : Forest} (nested : forest.WellNested none) :
    Run.Builds ⟨forest.moves none 0, (forest.openEntries 0).reverse⟩ forest.flatten forest where
  flatten := rfl
  moves := rfl
  placed := by
    intro numbered member
    obtain ⟨before, after, same, place⟩ := Forest.exists_flatten_of_mem_numberedGroups member
    exact ⟨before, after, same, by rw [place, Nat.zero_add]⟩
  unclosed_iff := by
    intro numbered member
    rw [List.mem_reverse]
    exact Forest.closer_eq_none_iff_mem_openEntries member
  last := by
    intro level member before family opener body after same
    have levelNested : ∃ around, level.WellNested around := by
      rcases List.mem_cons.mp member with rfl | inGroup
      · exact ⟨none, nested⟩
      · obtain ⟨group, among, rfl⟩ := List.mem_map.mp inGroup
        exact ⟨_, (nested.of_mem_allGroups among).2.1⟩
    obtain ⟨around, levelNested⟩ := levelNested
    exact (same ▸ levelNested).eq_nil_of_unclosed
  ancestors := by
    intro group member closed
    obtain ⟨closing, same⟩ := Option.ne_none_iff_exists'.mp closed
    exact ((nested.of_mem_allGroups member).2.2 closing same).2

/-- Nesting is what the machine does. Where the machine refuses a tag, nesting reports that tag as too
deep; where it gets through, nesting gives the forest that it has built. -/
theorem ofTags_follows_run (limit : Nat) (tags : List Tag) :
    match run limit 0 tags [] with
    | .error number =>
        ∃ tag, tags[number]? = some tag ∧ Forest.ofTags limit tags = .error ⟨tag.start, limit⟩
    | .ok finished =>
        ∃ forest, Forest.ofTags limit tags = .ok forest ∧ finished.Builds tags forest := by
  cases nesting : Forest.ofTags limit tags with
  | error tooDeep =>
      obtain ⟨before, tag, after, rfl, rfl, fails⟩ := run_of_nestUnder_eq_error 0
        (map_eq_error_iff.mp nesting : nestUnder limit tags (families []) = _)
      rw [fails]
      exact ⟨tag, by simp, rfl⟩
  | ok forest =>
      obtain ⟨nested, bound, rfl⟩ := Forest.of_ofTags nesting
      have runs : run limit 0 forest.flatten [] =
          .ok ⟨forest.moves none 0, (forest.openEntries 0).reverse ++ []⟩ :=
        run_flatten nested (by simpa using bound)
      rw [List.append_nil] at runs
      rw [runs]
      exact ⟨forest, rfl, builds_of_wellNested nested⟩

/-- The closing tag of a loop does not close a conditional block, whatever is on the stack below. -/
example :
    run 2 0 (Pairing.ofText .standard "{% for x in y %}{% if x %}{% endfor %}{{ x }}".toList).tags [] =
      .ok ⟨[.opens, .opens, .stands (some 1), .stands (some 1)],
        [⟨1, .conditional⟩, ⟨0, .loop⟩]⟩ := by
  rfl

end StackMachine

end Stencil

import Stencil.Proofs.Tag.Occurrences
import Stencil.Tag.Pairing

/-!
# Pairing by plain search

Pairing keeps the closing delimiters sorted by kind and drops those that are of no use any more. The
result is that of a plain search: for each opening delimiter the whole list of closing delimiters is
gone through from its start. All that is proved about pairing is proved about the plain search.
-/

set_option autoImplicit false

namespace Stencil

/-- The first closing delimiter of the right kind that starts at or after the end of an opening
delimiter. -/
def Delimiters.closing? (delimiters : Delimiters) (closes : List Occurrence)
    (opening : Occurrence) : Option Occurrence :=
  closes.find? fun closing =>
    closing.lexeme = delimiters.closer (delimiters.kindOf opening) ∧
      opening.stop ≤ closing.position

namespace Pairing

/-- Pairs opening delimiters in order by plain search. -/
def pairPlainly (delimiters : Delimiters) (text : Text) (closes : List Occurrence) :
    (opens : List Occurrence) → (reached : Nat) → Pairing
  | [], _ => ⟨[], []⟩
  | opening :: opens, reached =>
      if opening.position < reached then pairPlainly delimiters text closes opens reached
      else
        match delimiters.closing? closes opening with
        | none =>
            let later := pairPlainly delimiters text closes opens reached
            { later with unterminated := opening :: later.unterminated }
        | some closing =>
            let later := pairPlainly delimiters text closes opens closing.stop
            { later with
              tags := .between text (delimiters.kindOf opening) opening closing :: later.tags }

/-- The end of the last tag that plain search makes. -/
def reachedAfter (delimiters : Delimiters) (closes : List Occurrence) :
    (opens : List Occurrence) → (reached : Nat) → Nat
  | [], reached => reached
  | opening :: opens, reached =>
      if opening.position < reached then reachedAfter delimiters closes opens reached
      else
        match delimiters.closing? closes opening with
        | none => reachedAfter delimiters closes opens reached
        | some closing => reachedAfter delimiters closes opens closing.stop

theorem Closers.get_set (closers : Closers) (kind other : TagKind) (remaining : List Occurrence) :
    (closers.set kind remaining).get other =
      if other = kind then remaining else closers.get other := by
  cases kind <;> cases other <;> rfl

private theorem head?_dropWhile {α : Type} (test : α → Bool) (list : List α) :
    (list.dropWhile test).head? = list.find? fun item => !test item := by
  induction list with
  | nil => rfl
  | cons head rest ih => by_cases drops : test head = true <;> simp_all

private theorem dropWhile_dropWhile {α : Type} {first second : α → Bool} {list : List α}
    (weaker : ∀ item, first item = true → second item = true) :
    (list.dropWhile first).dropWhile second = list.dropWhile second := by
  induction list with
  | nil => rfl
  | cons head rest ih =>
      by_cases drops : first head = true
      · simp [drops, weaker head drops, ih]
      · simp [drops]

section

variable {delimiters : Delimiters} {text : Text} {closes : List Occurrence}

/-- The closing delimiters of a kind at or after the end of an opening delimiter. -/
private def useful (delimiters : Delimiters) (closes : List Occurrence) (kind : TagKind)
    (opening : Occurrence) : List Occurrence :=
  (closes.filter (·.lexeme = delimiters.closer kind)).dropWhile (·.position < opening.stop)

private theorem head?_useful (opening : Occurrence) :
    (useful delimiters closes (delimiters.kindOf opening) opening).head? =
      delimiters.closing? closes opening := by
  rw [useful, head?_dropWhile, List.find?_filter, Delimiters.closing?]
  congr 1
  funext closing
  simp

/-- Sorting and dropping closing delimiters changes nothing, as long as those that are left for
each opening delimiter are the useful ones. -/
private theorem pairFrom_eq_pairPlainly {opens : List Occurrence} {closers : Closers}
    (reached : Nat)
    (ordered : opens.Pairwise fun earlier later => earlier.stop ≤ later.position)
    (kept : ∀ opening ∈ opens, ∀ kind,
      (closers.get kind).dropWhile (·.position < opening.stop) =
        useful delimiters closes kind opening) :
    pairFrom delimiters text opens closers reached =
      pairPlainly delimiters text closes opens reached := by
  induction opens generalizing closers reached with
  | nil => rfl
  | cons opening opens ih =>
      obtain ⟨before, ordered⟩ := List.pairwise_cons.mp ordered
      have keptLater : ∀ later ∈ opens, ∀ kind,
          (closers.get kind).dropWhile (·.position < later.stop) =
            useful delimiters closes kind later :=
        fun later member => kept later (List.mem_cons_of_mem _ member)
      have remaining := kept opening List.mem_cons_self (delimiters.kindOf opening)
      have keptAfter : ∀ later ∈ opens, ∀ kind,
          ((closers.set (delimiters.kindOf opening)
            (useful delimiters closes (delimiters.kindOf opening) opening)).get kind).dropWhile
              (·.position < later.stop) = useful delimiters closes kind later := by
        intro later member kind
        rw [Closers.get_set]
        split
        · next same =>
            subst same
            apply dropWhile_dropWhile
            intro closing early
            have order := before later member
            have ends := later.position_le_stop
            simp only [decide_eq_true_eq] at early ⊢
            omega
        · exact keptLater later member kind
      simp only [pairFrom, pairPlainly]
      split
      · exact ih reached ordered keptLater
      · rw [remaining, ← head?_useful]
        cases left : useful delimiters closes (delimiters.kindOf opening) opening with
        | nil =>
            rw [left] at keptAfter
            simp only [List.head?_nil, ih reached ordered keptAfter]
        | cons closing others =>
            rw [left] at keptAfter
            simp only [List.head?_cons, ih closing.stop ordered keptAfter]

/-- The tags of a text are those of plain search. -/
theorem ofText_eq_pairPlainly (delimiters : Delimiters) (text : Text) :
    ofText delimiters text =
      pairPlainly delimiters text (Scan.ofText delimiters text).closes
        (Scan.ofText delimiters text).opens 0 := by
  apply pairFrom_eq_pairPlainly 0 (pairwise_occurrences _ _ _)
  intro opening _ kind
  cases kind with
  | «variable» => rfl
  | block => rfl

/-! ## Where the tags stand -/

theorem closing?_eq_some {opening closing : Occurrence}
    (found : delimiters.closing? closes opening = some closing) :
    closing ∈ closes ∧ closing.lexeme = delimiters.closer (delimiters.kindOf opening) ∧
      opening.stop ≤ closing.position := by
  have properties := List.find?_some found
  exact ⟨List.mem_of_find?_eq_some found, by simpa using properties⟩

private theorem le_stop_of_closing? {opening closing : Occurrence} {reached : Nat}
    (found : delimiters.closing? closes opening = some closing)
    (passed : ¬opening.position < reached) : reached ≤ closing.stop := by
  have order := (closing?_eq_some found).2.2
  have openingEnds := opening.position_le_stop
  have closingEnds := closing.position_le_stop
  omega

/-- Each tag stands between an opening delimiter and the closing delimiter that was found for it. -/
theorem mem_tags_pairPlainly {opens : List Occurrence} {reached : Nat} {tag : Tag}
    (member : tag ∈ (pairPlainly delimiters text closes opens reached).tags) :
    ∃ opening ∈ opens, reached ≤ opening.position ∧
      ∃ closing, delimiters.closing? closes opening = some closing ∧
        tag = .between text (delimiters.kindOf opening) opening closing := by
  induction opens generalizing reached with
  | nil => cases member
  | cons opening opens ih =>
      simp only [pairPlainly] at member
      split at member
      · obtain ⟨found, among, rest⟩ := ih member
        exact ⟨found, List.mem_cons_of_mem _ among, rest⟩
      · next passed =>
          cases search : delimiters.closing? closes opening with
          | none =>
              rw [search] at member
              obtain ⟨found, among, rest⟩ := ih member
              exact ⟨found, List.mem_cons_of_mem _ among, rest⟩
          | some closing =>
              rw [search] at member
              rcases List.mem_cons.mp member with rfl | later
              · exact ⟨opening, List.mem_cons_self, Nat.le_of_not_lt passed, closing, search, rfl⟩
              · obtain ⟨found, among, after, rest⟩ := ih later
                have order := le_stop_of_closing? search passed
                exact ⟨found, List.mem_cons_of_mem _ among, Nat.le_trans order after, rest⟩

/-- What is left open stands among the opening delimiters, in their order. -/
theorem unterminated_sublist_pairPlainly (opens : List Occurrence) (reached : Nat) :
    (pairPlainly delimiters text closes opens reached).unterminated.Sublist opens := by
  induction opens generalizing reached with
  | nil => exact .slnil
  | cons first opens ih =>
      simp only [pairPlainly]
      split
      · exact (ih reached).cons first
      · cases delimiters.closing? closes first with
        | none => exact (ih reached).cons_cons first
        | some closing => exact (ih closing.stop).cons first

theorem mem_unterminated_pairPlainly {opens : List Occurrence} {reached : Nat}
    {opening : Occurrence}
    (left : opening ∈ (pairPlainly delimiters text closes opens reached).unterminated) :
    opening ∈ opens :=
  (unterminated_sublist_pairPlainly opens reached).subset left

theorem le_position_of_mem_unterminated {opens : List Occurrence} {reached : Nat}
    {opening : Occurrence}
    (left : opening ∈ (pairPlainly delimiters text closes opens reached).unterminated) :
    reached ≤ opening.position := by
  induction opens generalizing reached with
  | nil => cases left
  | cons first opens ih =>
      simp only [pairPlainly] at left
      split at left
      · exact ih left
      · next passed =>
          cases search : delimiters.closing? closes first with
          | none =>
              rw [search] at left
              rcases List.mem_cons.mp left with rfl | later
              · exact Nat.le_of_not_lt passed
              · exact ih later
          | some closing =>
              rw [search] at left
              exact Nat.le_trans (le_stop_of_closing? search passed) (ih left)

/-- A delimiter that is left open stands outside of all tags. -/
theorem apart_of_mem_unterminated {opens : List Occurrence}
    (order : opens.Pairwise fun earlier later => earlier.stop ≤ later.position) {reached : Nat}
    {opening : Occurrence} {tag : Tag}
    (left : opening ∈ (pairPlainly delimiters text closes opens reached).unterminated)
    (made : tag ∈ (pairPlainly delimiters text closes opens reached).tags) :
    opening.stop ≤ tag.start ∨ tag.stop ≤ opening.position := by
  induction opens generalizing reached with
  | nil => cases left
  | cons first opens ih =>
      obtain ⟨before, order⟩ := List.pairwise_cons.mp order
      simp only [pairPlainly] at left made
      split at left
      · next skipped =>
          rw [if_pos skipped] at made
          exact ih order left made
      · next passed =>
          rw [if_neg passed] at made
          cases search : delimiters.closing? closes first with
          | none =>
              rw [search] at left made
              rcases List.mem_cons.mp left with rfl | later
              · obtain ⟨opener, opens, -, closing, -, rfl⟩ := mem_tags_pairPlainly made
                exact .inl (before opener opens)
              · exact ih order later made
          | some closing =>
              rw [search] at left made
              rcases List.mem_cons.mp made with rfl | later
              · exact .inr (le_position_of_mem_unterminated left)
              · exact ih order left later

theorem pairwise_tags_pairPlainly (delimiters : Delimiters) (text : Text)
    (closes opens : List Occurrence) (reached : Nat) :
    (pairPlainly delimiters text closes opens reached).tags.Pairwise
      fun earlier later => earlier.stop ≤ later.start := by
  induction opens generalizing reached with
  | nil => exact .nil
  | cons opening opens ih =>
      simp only [pairPlainly]
      split
      · exact ih reached
      · cases search : delimiters.closing? closes opening with
        | none => exact ih reached
        | some closing =>
            refine List.pairwise_cons.mpr ⟨?_, ih closing.stop⟩
            intro later member
            obtain ⟨found, -, after, other, -, rfl⟩ := mem_tags_pairPlainly member
            exact after

end

end Pairing

/-- A tag whose ends are cuts of a text. -/
structure Tag.LiesIn (tag : Tag) (text : Text) : Prop where
  isCut_start : text.IsCut tag.start
  isCut_stop : text.IsCut tag.stop
  start_le_stop : tag.start ≤ tag.stop

/-- Tags that lie in a text one after the other. -/
structure Tag.InOrder (text : Text) (tags : List Tag) : Prop where
  liesIn : ∀ tag ∈ tags, tag.LiesIn text
  pairwise : tags.Pairwise fun earlier later => earlier.stop ≤ later.start

namespace Tag.InOrder

variable {text : Text} {tags : List Tag}

theorem sublist {some : List Tag} (order : InOrder text tags) (fewer : some.Sublist tags) :
    InOrder text some :=
  ⟨fun tag member => order.liesIn tag (fewer.subset member), order.pairwise.sublist fewer⟩

theorem stop_le_start {before after : List Tag} {earlier later : Tag}
    (order : InOrder text (before ++ after)) (earlierMember : earlier ∈ before)
    (laterMember : later ∈ after) : earlier.stop ≤ later.start :=
  (List.pairwise_append.mp order.pairwise).2.2 earlier earlierMember later laterMember

end Tag.InOrder

/-- Tags that lie one after the other between two cuts of a text. -/
structure Tag.Framed (text : Text) (start stop : Nat) (tags : List Tag) : Prop where
  isCut_start : text.IsCut start
  isCut_stop : text.IsCut stop
  start_le_stop : start ≤ stop
  inOrder : Tag.InOrder text tags
  le_start : ∀ tag ∈ tags, start ≤ tag.start
  stop_le : ∀ tag ∈ tags, tag.stop ≤ stop

theorem Tag.InOrder.framed {text : Text} {tags : List Tag} (order : InOrder text tags) :
    Framed text 0 text.size tags where
  isCut_start := text.isCut_zero
  isCut_stop := text.isCut_size
  start_le_stop := Nat.zero_le _
  inOrder := order
  le_start := fun _ _ => Nat.zero_le _
  stop_le := fun tag member => (order.liesIn tag member).isCut_stop.le_size

/-- Each tag divides the frame of some tags into two. -/
theorem Tag.Framed.split {text : Text} {start stop : Nat} {before after : List Tag} {tag : Tag}
    (framed : Framed text start stop (before ++ tag :: after)) :
    Framed text start tag.start before ∧ Framed text tag.stop stop after := by
  have member : tag ∈ before ++ tag :: after := by simp
  have lies := framed.inOrder.liesIn tag member
  have order := framed.inOrder.sublist (List.sublist_append_right before (tag :: after))
  constructor
  · exact {
      isCut_start := framed.isCut_start
      isCut_stop := lies.isCut_start
      start_le_stop := framed.le_start tag member
      inOrder := framed.inOrder.sublist (List.sublist_append_left _ _)
      le_start := fun other among => framed.le_start other (List.mem_append_left _ among)
      stop_le := fun other among => framed.inOrder.stop_le_start among List.mem_cons_self }
  · exact {
      isCut_start := lies.isCut_stop
      isCut_stop := framed.isCut_stop
      start_le_stop := framed.stop_le tag member
      inOrder := order.sublist (List.sublist_cons_self _ _)
      le_start := fun other among => List.rel_of_pairwise_cons order.pairwise among
      stop_le := fun other among => framed.stop_le other
        (List.mem_append_right _ (List.mem_cons_of_mem _ among)) }

theorem Tag.Framed.split_cons {text : Text} {start stop : Nat} {after : List Tag} {tag : Tag}
    (framed : Framed text start stop (tag :: after)) :
    Framed text start tag.start [] ∧ Framed text tag.stop stop after :=
  split (List.nil_append _ ▸ framed)

theorem Tag.Framed.sublist {text : Text} {start stop : Nat} {tags fewer : List Tag}
    (framed : Framed text start stop tags) (sublist : fewer.Sublist tags) :
    Framed text start stop fewer :=
  { framed with
    inOrder := framed.inOrder.sublist sublist
    le_start := fun tag member => framed.le_start tag (sublist.subset member)
    stop_le := fun tag member => framed.stop_le tag (sublist.subset member) }

theorem Occurrence.isCut_of_mem {first second text : Text} {occurrence : Occurrence}
    (member : occurrence ∈ occurrences first second text) :
    text.IsCut occurrence.position ∧ text.IsCut occurrence.stop := by
  obtain ⟨-, before, after, same, start⟩ := exists_parts_of_mem_occurrences member
  constructor
  · exact ⟨before, _, same, start⟩
  · exact ⟨before ++ occurrence.lexeme, after, by simp [same], by simp [start, Occurrence.stop]⟩

/-- The tags of a text lie in it one after the other. -/
theorem Pairing.inOrder_ofText (delimiters : Delimiters) (text : Text) :
    Tag.InOrder text (ofText delimiters text).tags := by
  rw [ofText_eq_pairPlainly]
  refine ⟨?_, pairwise_tags_pairPlainly _ _ _ _ _⟩
  intro tag member
  obtain ⟨opening, opens, -, closing, found, rfl⟩ := mem_tags_pairPlainly member
  obtain ⟨closes, -, order⟩ := closing?_eq_some found
  refine ⟨(Occurrence.isCut_of_mem opens).1, (Occurrence.isCut_of_mem closes).2, ?_⟩
  have openingEnds := opening.position_le_stop
  have closingEnds := closing.position_le_stop
  simp only [Tag.between]
  omega

end Stencil

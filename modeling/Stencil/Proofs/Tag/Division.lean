import Stencil.Proofs.Tag.Recognition
import Stencil.Proofs.Text.Splicing

/-!
# How tags divide a text

The closing delimiters of one kind stand in the order of the text, so the first one that is of use can
be found by halving as well as by plain search. The tags that are made divide the text: with the gaps
between them they give it back, and each opening delimiter either opens one of them, or stands inside
of one, or is left open.
-/

set_option autoImplicit false

namespace Stencil

/-! ## Search by halving -/

section

variable {α : Type}

/-- The index of the first item from `low` up to `high` that fails a test, where the items that pass
stand before those that fail. Each step looks at the item in the middle. -/
def searchByHalving (test : α → Bool) (items : List α) (low high : Nat) : Nat :=
  if low < high then
    if items[low + (high - low) / 2]?.any test then
      searchByHalving test items (low + (high - low) / 2 + 1) high
    else searchByHalving test items low (low + (high - low) / 2)
  else low
  termination_by high - low
  decreasing_by all_goals omega

/-- The number of items at the start of a list that pass a test. -/
def partitionPoint (test : α → Bool) (items : List α) : Nat :=
  searchByHalving test items 0 items.length

variable {test : α → Bool} {items : List α}

/-- All items before an index pass a test, and all others fail it. -/
structure DividesAt (test : α → Bool) (items : List α) (low high : Nat) : Prop where
  low_le_high : low ≤ high
  high_le_length : high ≤ items.length
  passes : ∀ index (inside : index < items.length), index < low → test items[index] = true
  fails : ∀ index (inside : index < items.length), high ≤ index → test items[index] = false

/-- Halving keeps the first item that fails between its bounds. -/
theorem dividesAt_searchByHalving
    (ordered : items.Pairwise fun earlier later => test later = true → test earlier = true)
    {low high : Nat} (divides : DividesAt test items low high) :
    DividesAt test items (searchByHalving test items low high)
      (searchByHalving test items low high) := by
  fun_induction searchByHalving test items low high with
  | case1 low high below passes ih =>
      have inside : low + (high - low) / 2 < items.length := by
        have bound := divides.high_le_length
        omega
      rw [List.getElem?_eq_getElem inside] at passes
      refine ih ⟨by omega, divides.high_le_length, ?_, divides.fails⟩
      intro index indexInside before
      rcases Nat.lt_or_eq_of_le (Nat.le_of_lt_succ before) with earlier | rfl
      · exact List.pairwise_iff_getElem.mp ordered index _ indexInside inside earlier passes
      · exact passes
  | case2 low high below fails ih =>
      have inside : low + (high - low) / 2 < items.length := by
        have bound := divides.high_le_length
        omega
      rw [List.getElem?_eq_getElem inside] at fails
      refine ih ⟨by omega, by omega, divides.passes, ?_⟩
      intro index indexInside after
      rcases Nat.lt_or_eq_of_le after with later | rfl
      · exact Bool.eq_false_iff.mpr fun passes => fails
          (List.pairwise_iff_getElem.mp ordered _ index inside indexInside later passes)
      · exact Bool.eq_false_iff.mpr fails
  | case3 low high above =>
      obtain rfl : low = high := Nat.le_antisymm divides.low_le_high (Nat.le_of_not_lt above)
      exact divides

/-- The item that halving finds is the one that plain search finds. -/
theorem getElem?_partitionPoint
    (ordered : items.Pairwise fun earlier later => test later = true → test earlier = true) :
    items[partitionPoint test items]? = items.find? fun item => !test item := by
  have divides : DividesAt test items (partitionPoint test items) (partitionPoint test items) :=
    dividesAt_searchByHalving ordered ⟨Nat.zero_le _, Nat.le_refl _,
      fun _ _ before => absurd before (Nat.not_lt_zero _),
      fun _ inside after => absurd inside (Nat.not_lt_of_le after)⟩
  by_cases inside : partitionPoint test items < items.length
  · rw [List.getElem?_eq_getElem inside, eq_comm, List.find?_eq_some_iff_getElem]
    refine ⟨by rw [divides.fails _ inside (Nat.le_refl _)]; rfl, _, inside, rfl, ?_⟩
    intro index before
    rw [divides.passes index (Nat.lt_trans before inside) before]
    rfl
  · rw [List.getElem?_eq_none (Nat.le_of_not_lt inside), eq_comm, List.find?_eq_none]
    intro item member
    obtain ⟨index, indexInside, rfl⟩ := List.getElem_of_mem member
    rw [divides.passes index indexInside (by omega)]
    simp

end

namespace Pairing

/-- Pairs opening delimiters in order. The closing delimiters of each kind are kept whole, and the
first one of use is found by halving. -/
def pairByIndex (delimiters : Delimiters) (text : Text) (closers : Closers) :
    (opens : List Occurrence) → (reached : Nat) → Pairing
  | [], _ => ⟨[], []⟩
  | opening :: opens, reached =>
      if opening.position < reached then pairByIndex delimiters text closers opens reached
      else
        let kind := delimiters.kindOf opening
        let closes := closers.get kind
        match closes[partitionPoint (·.position < opening.stop) closes]? with
        | none =>
            let later := pairByIndex delimiters text closers opens reached
            { later with unterminated := opening :: later.unterminated }
        | some closing =>
            let later := pairByIndex delimiters text closers opens closing.stop
            { later with tags := .between text kind opening closing :: later.tags }

section

variable {delimiters : Delimiters} {text : Text} {closes : List Occurrence}

theorem get_ofOccurrences (kind : TagKind) :
    (Closers.ofOccurrences delimiters closes).get kind =
      closes.filter (·.lexeme = delimiters.closer kind) := by
  cases kind <;> rfl

variable (delimiters) in
theorem getElem?_closers
    (ordered : closes.Pairwise fun earlier later => earlier.stop ≤ later.position)
    (opening : Occurrence) :
    let closers := (Closers.ofOccurrences delimiters closes).get (delimiters.kindOf opening)
    closers[partitionPoint (·.position < opening.stop) closers]? =
      delimiters.closing? closes opening := by
  rw [get_ofOccurrences]
  have positions : (closes.filter (·.lexeme = delimiters.closer (delimiters.kindOf opening))).Pairwise
      fun earlier later => decide (later.position < opening.stop) = true →
        decide (earlier.position < opening.stop) = true := by
    refine (ordered.sublist List.filter_sublist).imp ?_
    intro earlier later before passes
    have wide := earlier.position_le_stop
    simp only [decide_eq_true_eq] at passes ⊢
    omega
  intro closers
  rw [getElem?_partitionPoint positions, List.find?_filter, Delimiters.closing?]
  congr 1
  funext closing
  simp

theorem pairByIndex_eq_pairPlainly
    (ordered : closes.Pairwise fun earlier later => earlier.stop ≤ later.position)
    (opens : List Occurrence) (reached : Nat) :
    pairByIndex delimiters text (.ofOccurrences delimiters closes) opens reached =
      pairPlainly delimiters text closes opens reached := by
  induction opens generalizing reached with
  | nil => rfl
  | cons opening opens ih =>
      have found := getElem?_closers delimiters ordered opening
      unfold pairByIndex pairPlainly
      dsimp only at found ⊢
      split
      · exact ih reached
      · rw [found]
        cases delimiters.closing? closes opening with
        | none => simp only [ih reached]
        | some closing => simp only [ih closing.stop]

end

end Pairing

/-! ## Tags and opening delimiters -/

/-- What can become of an opening delimiter. -/
inductive Fate where
  /-- It opens a tag. -/
  | opens (tag : Tag)
  /-- It starts inside of a tag, after the delimiter that opens the tag. -/
  | inside (tag : Tag)
  /-- It is never closed. -/
  | leftOpen

def Fate.tag? : Fate → Option Tag
  | opens tag | inside tag => some tag
  | leftOpen => none

theorem Delimiters.opener_ne_nil {delimiters : Delimiters} {kind : TagKind} :
    delimiters.opener kind ≠ [] := by
  cases kind with
  | «variable» => exact delimiters.variableOpen_ne_nil
  | block => exact delimiters.blockOpen_ne_nil

namespace Pairing

/-- What becomes of an opening delimiter when a text is paired. -/
def Decides (delimiters : Delimiters) (pairing : Pairing) (opening : Occurrence) : Fate → Prop
  | .opens tag =>
      tag ∈ pairing.tags ∧ tag.start = opening.position ∧ tag.kind = delimiters.kindOf opening
  | .inside tag =>
      tag ∈ pairing.tags ∧ tag.start + (delimiters.opener tag.kind).size ≤ opening.position ∧
        opening.position < tag.stop
  | .leftOpen => opening ∈ pairing.unterminated

section

variable {delimiters : Delimiters} {text : Text} {closes : List Occurrence}

theorem Decides.mono {first second : Pairing} {opening : Occurrence} {fate : Fate}
    (tags : first.tags ⊆ second.tags) (unterminated : first.unterminated ⊆ second.unterminated)
    (decides : first.Decides delimiters opening fate) :
    second.Decides delimiters opening fate := by
  cases fate with
  | opens tag => exact ⟨tags decides.1, decides.2⟩
  | inside tag => exact ⟨tags decides.1, decides.2⟩
  | leftOpen => exact unterminated decides

/-- An opening delimiter that is not before what has been reached is decided on. -/
theorem exists_decides_pairPlainly {opens : List Occurrence} {reached : Nat} {opening : Occurrence}
    (order : opens.Pairwise fun earlier later => earlier.stop ≤ later.position)
    (lexemes : ∀ opener ∈ opens, opener.lexeme = delimiters.opener (delimiters.kindOf opener))
    (member : opening ∈ opens) (passed : reached ≤ opening.position) :
    ∃ fate, (pairPlainly delimiters text closes opens reached).Decides delimiters opening fate := by
  induction opens generalizing reached with
  | nil => cases member
  | cons first opens ih =>
      obtain ⟨before, order⟩ := List.pairwise_cons.mp order
      have lexemesLater : ∀ opener ∈ opens,
          opener.lexeme = delimiters.opener (delimiters.kindOf opener) :=
        fun opener later => lexemes opener (List.mem_cons_of_mem _ later)
      simp only [pairPlainly]
      split
      · next skipped =>
          rcases List.mem_cons.mp member with rfl | later
          · exact absurd passed (Nat.not_le_of_lt skipped)
          · exact ih order lexemesLater later passed
      · cases search : delimiters.closing? closes first with
        | none =>
            rcases List.mem_cons.mp member with rfl | later
            · exact ⟨.leftOpen, List.mem_cons_self⟩
            · obtain ⟨fate, decides⟩ := ih order lexemesLater later passed
              refine ⟨fate, decides.mono ?_ ?_⟩
              · exact List.Subset.refl _
              · exact List.subset_cons_self _ _
        | some closing =>
            rcases List.mem_cons.mp member with rfl | later
            · exact ⟨.opens _, List.mem_cons_self, rfl, rfl⟩
            · by_cases covered : opening.position < closing.stop
              · refine ⟨.inside _, List.mem_cons_self, ?_, covered⟩
                have after := before opening later
                rwa [Occurrence.stop, lexemes first List.mem_cons_self] at after
              · obtain ⟨fate, decides⟩ :=
                  ih order lexemesLater later (Nat.le_of_not_lt covered)
                refine ⟨fate, decides.mono ?_ ?_⟩
                · exact List.subset_cons_self _ _
                · exact List.Subset.refl _

theorem closing?_of_mem_unterminated {opens : List Occurrence} {reached : Nat}
    {opening : Occurrence}
    (left : opening ∈ (pairPlainly delimiters text closes opens reached).unterminated) :
    delimiters.closing? closes opening = none := by
  induction opens generalizing reached with
  | nil => cases left
  | cons first opens ih =>
      simp only [pairPlainly] at left
      split at left
      · exact ih left
      · cases search : delimiters.closing? closes first with
        | none =>
            rw [search] at left
            rcases List.mem_cons.mp left with rfl | later
            · exact search
            · exact ih later
        | some closing =>
            rw [search] at left
            exact ih left

end

section

variable {delimiters : Delimiters} {text : Text} {tag other : Tag} {opening : Occurrence}

theorem exists_decides (opens : opening ∈ (Scan.ofText delimiters text).opens) :
    ∃ fate, (ofText delimiters text).Decides delimiters opening fate := by
  rw [ofText_eq_pairPlainly]
  exact exists_decides_pairPlainly (pairwise_occurrences _ _ _)
    (fun opener member => Delimiters.opener_kindOf member) opens (Nat.zero_le _)

/-- Each tag stands between two delimiters of its kind that are found in the text. -/
theorem exists_between_of_mem_tags (member : tag ∈ (ofText delimiters text).tags) :
    ∃ opening ∈ (Scan.ofText delimiters text).opens,
      ∃ closing ∈ (Scan.ofText delimiters text).closes, opening.stop ≤ closing.position ∧
        opening.lexeme = delimiters.opener tag.kind ∧ closing.lexeme = delimiters.closer tag.kind ∧
          tag = .between text tag.kind opening closing := by
  rw [ofText_eq_pairPlainly] at member
  obtain ⟨opening, opens, -, closing, found, rfl⟩ := mem_tags_pairPlainly member
  obtain ⟨closes, lexeme, after⟩ := closing?_eq_some found
  exact ⟨opening, opens, closing, closes, after, Delimiters.opener_kindOf opens, lexeme, rfl⟩

/-- Two occurrences in a text, one after the other, with what stands between them. -/
theorem slice_between {closing : Occurrence}
    (opens : opening ∈ (Scan.ofText delimiters text).opens)
    (closes : closing ∈ (Scan.ofText delimiters text).closes)
    (order : opening.stop ≤ closing.position) :
    text.slice opening.position closing.stop =
      opening.lexeme ++ (text.slice opening.stop closing.position ++ closing.lexeme) := by
  obtain ⟨-, before, rest, whole, start⟩ := exists_parts_of_mem_occurrences opens
  obtain ⟨-, beforeCloser, after, wholeAgain, stop⟩ := exists_parts_of_mem_occurrences closes
  obtain ⟨content, rfl, -⟩ : ∃ content, beforeCloser = (before ++ opening.lexeme) ++ content ∧
      rest = content ++ (closing.lexeme ++ after) := by
    apply Text.exists_append_of_size_le
    · rw [List.append_assoc, ← whole, wholeAgain]
    · rw [Text.size_append, start, stop]
      exact order
  simp only [Text.size_append, start] at stop
  have outer := Text.slice_append_append before
    (opening.lexeme ++ (content ++ closing.lexeme)) after
  have inner := Text.slice_append_append (before ++ opening.lexeme) content
    (closing.lexeme ++ after)
  simp only [Text.size_append, start, List.append_assoc] at outer inner wholeAgain
  rw [← wholeAgain] at outer inner
  rw [Occurrence.stop, Occurrence.stop, ← stop, inner, ← outer]
  congr 1
  omega

theorem full_of_mem_tags (member : tag ∈ (ofText delimiters text).tags) :
    tag.full = text.slice tag.start tag.stop ∧ tag.full = delimiters.inTag tag.kind tag.content := by
  obtain ⟨opening, opens, closing, closes, order, opener, closer, same⟩ :=
    exists_between_of_mem_tags member
  have cut := slice_between opens closes order
  have full : tag.full = text.slice opening.position closing.stop := congrArg Tag.full same
  have content : tag.content = text.slice opening.stop closing.position := congrArg Tag.content same
  have start : tag.start = opening.position := congrArg Tag.start same
  have stop : tag.stop = closing.stop := congrArg Tag.stop same
  constructor
  · rw [full, start, stop]
  · rw [full, cut, opener, closer, content]
    rfl

/-- A tag of a text in which an opening delimiter starts, or which it opens. -/
def Covers (delimiters : Delimiters) (text : Text) (tag : Tag) (opening : Occurrence) : Prop :=
  tag ∈ (ofText delimiters text).tags ∧ tag.start ≤ opening.position ∧ opening.position < tag.stop

theorem Covers.eq (first : Covers delimiters text tag opening)
    (second : Covers delimiters text other opening) : tag = other := by
  obtain ⟨member, starts, stops⟩ := first
  obtain ⟨otherMember, otherStarts, otherStops⟩ := second
  rcases eq_or_related_of_pairwise (inOrder_ofText delimiters text).pairwise member otherMember with
    same | earlier | later
  · exact same
  · omega
  · omega

theorem Covers.notMem_unterminated (covers : Covers delimiters text tag opening) :
    opening ∉ (ofText delimiters text).unterminated := by
  intro left
  obtain ⟨member, starts, stops⟩ := covers
  rw [ofText_eq_pairPlainly] at member left
  have positive := Occurrence.position_lt_stop
    (delimiters.lexeme_ne_nil (mem_unterminated_pairPlainly left))
  rcases apart_of_mem_unterminated (pairwise_occurrences _ _ _) left member with before | after
  · omega
  · omega

theorem covers_of_decides {fate : Fate}
    (decides : (ofText delimiters text).Decides delimiters opening fate)
    (same : fate.tag? = some tag) : Covers delimiters text tag opening := by
  cases fate with
  | opens =>
      cases same
      obtain ⟨member, starts, -⟩ := decides
      have wide := start_lt_stop_of_mem member
      exact ⟨member, by omega, by omega⟩
  | inside =>
      cases same
      obtain ⟨member, starts, stops⟩ := decides
      exact ⟨member, by omega, stops⟩
  | leftOpen => cases same

theorem not_decides_opens_and_inside
    (opens : (ofText delimiters text).Decides delimiters opening (.opens tag))
    (inside : (ofText delimiters text).Decides delimiters opening (.inside tag)) : False := by
  have nonempty : (delimiters.opener tag.kind).size ≠ 0 :=
    fun zero => delimiters.opener_ne_nil (Text.size_eq_zero_iff.mp zero)
  have starts := opens.2.1
  have after := inside.2.1
  omega

theorem eq_of_decides {fate another : Fate}
    (first : (ofText delimiters text).Decides delimiters opening fate)
    (second : (ofText delimiters text).Decides delimiters opening another) : another = fate := by
  cases fate with
  | opens tag =>
      have covers := covers_of_decides first rfl
      cases another with
      | opens other => rw [covers.eq (covers_of_decides second rfl)]
      | inside other =>
          obtain rfl := covers.eq (covers_of_decides second rfl)
          exact (not_decides_opens_and_inside first second).elim
      | leftOpen => exact (covers.notMem_unterminated second).elim
  | inside tag =>
      have covers := covers_of_decides first rfl
      cases another with
      | opens other =>
          obtain rfl := covers.eq (covers_of_decides second rfl)
          exact (not_decides_opens_and_inside second first).elim
      | inside other => rw [covers.eq (covers_of_decides second rfl)]
      | leftOpen => exact (covers.notMem_unterminated second).elim
  | leftOpen =>
      cases another with
      | opens other => exact ((covers_of_decides second rfl).notMem_unterminated first).elim
      | inside other => exact ((covers_of_decides second rfl).notMem_unterminated first).elim
      | leftOpen => rfl

/-- A closing delimiter with which a tag ends. -/
def EndsWith (delimiters : Delimiters) (tag : Tag) (closing : Occurrence) : Prop :=
  closing.lexeme = delimiters.closer tag.kind ∧ closing.stop = tag.stop

/-- How a pairing divides a text and the delimiters that are found in it. -/
structure Divides (delimiters : Delimiters) (text : Text) (pairing : Pairing) : Prop where
  start_lt_stop : ∀ tag ∈ pairing.tags, tag.start < tag.stop
  pairwise : pairing.tags.Pairwise fun earlier later => earlier.stop ≤ later.start
  isCut : ∀ tag ∈ pairing.tags, text.IsCut tag.start ∧ text.IsCut tag.stop
  full_eq : ∀ tag ∈ pairing.tags,
    tag.full = text.slice tag.start tag.stop ∧ tag.full = delimiters.inTag tag.kind tag.content
  /-- The tags and the gaps between them are the whole text. -/
  splice_eq : text.splice (pairing.tags.map fun tag => (tag.span, tag.full)) = text
  /-- Exactly one thing becomes of each opening delimiter. -/
  decided : ∀ opening ∈ (Scan.ofText delimiters text).opens,
    ∃ fate, pairing.Decides delimiters opening fate ∧
      ∀ another, pairing.Decides delimiters opening another → another = fate
  ends : ∀ tag ∈ pairing.tags,
    ∃ closing ∈ (Scan.ofText delimiters text).closes, EndsWith delimiters tag closing
  /-- No closing delimiter ends two tags. -/
  eq_of_endsWith : ∀ closing, ∀ tag ∈ pairing.tags, ∀ other ∈ pairing.tags,
    EndsWith delimiters tag closing → EndsWith delimiters other closing → tag = other
  /-- Whatever is left open is followed by no tag of its kind. -/
  kind_ne : ∀ opening ∈ pairing.unterminated, ∀ tag ∈ pairing.tags,
    opening.position ≤ tag.start → tag.kind ≠ delimiters.kindOf opening

theorem follow_tags {reached : Nat} {tags : List Tag} (order : Tag.InOrder text tags)
    (before : ∀ tag ∈ tags, reached ≤ tag.start) :
    Span.Follow text reached (tags.map Tag.span) := by
  induction tags generalizing reached with
  | nil => exact .nil
  | cons tag tags ih =>
      have lies := order.liesIn tag List.mem_cons_self
      refine .cons (before tag List.mem_cons_self) lies.start_le_stop lies.isCut_start
        lies.isCut_stop (ih (order.sublist (List.sublist_cons_self _ _)) ?_)
      exact fun later member => List.rel_of_pairwise_cons order.pairwise member

theorem splice_tags (delimiters : Delimiters) (text : Text) :
    text.splice ((ofText delimiters text).tags.map fun tag => (tag.span, tag.full)) = text := by
  rw [Text.splice, Text.spliceFrom_own text.isCut_zero, Text.dropBytes_zero]
  · rw [List.map_map]
    exact follow_tags (inOrder_ofText delimiters text) fun tag _ => Nat.zero_le tag.start
  · intro edit member
    obtain ⟨tag, among, rfl⟩ := List.mem_map.mp member
    exact (full_of_mem_tags among).1

theorem kind_ne_of_mem_unterminated (left : opening ∈ (ofText delimiters text).unterminated)
    (member : tag ∈ (ofText delimiters text).tags) (later : opening.position ≤ tag.start) :
    tag.kind ≠ delimiters.kindOf opening := by
  intro same
  obtain ⟨opener, opens, closing, closes, order, -, lexeme, made⟩ := exists_between_of_mem_tags member
  have start : tag.start = opener.position := congrArg Tag.start made
  rw [ofText_eq_pairPlainly] at left
  have absent := List.find?_eq_none.mp (closing?_of_mem_unterminated left) closing closes
  have after : opening.stop ≤ opener.stop := by
    rcases eq_or_related_of_pairwise (pairwise_occurrences _ _ _) (mem_unterminated_pairPlainly left)
      opens with rfl | before | behind
    · exact Nat.le_refl _
    · exact Nat.le_trans before opener.position_le_stop
    · have wide := opener.position_le_stop
      have opensWide := Occurrence.position_lt_stop (delimiters.lexeme_ne_nil opens)
      omega
  exact absent (by simp [lexeme, same, Nat.le_trans after order])

/-- The tags of a text are those of plain search, and those of a search by halving among the closing
delimiters of one kind, and they divide the text. -/
theorem ofText_divides (delimiters : Delimiters) (text : Text) :
    ofText delimiters text =
        pairPlainly delimiters text (Scan.ofText delimiters text).closes
          (Scan.ofText delimiters text).opens 0 ∧
      ofText delimiters text =
          pairByIndex delimiters text (.ofOccurrences delimiters (Scan.ofText delimiters text).closes)
            (Scan.ofText delimiters text).opens 0 ∧
        (ofText delimiters text).Divides delimiters text := by
  have plain := ofText_eq_pairPlainly delimiters text
  have order := inOrder_ofText delimiters text
  refine ⟨plain, ?_, ?_⟩
  · rw [plain]
    exact (pairByIndex_eq_pairPlainly (pairwise_occurrences _ _ _) _ 0).symm
  · exact {
      start_lt_stop := fun tag member => start_lt_stop_of_mem member
      pairwise := order.pairwise
      isCut := fun tag member =>
        ⟨(order.liesIn tag member).isCut_start, (order.liesIn tag member).isCut_stop⟩
      full_eq := fun tag member => full_of_mem_tags member
      splice_eq := splice_tags delimiters text
      decided := by
        intro opening opens
        obtain ⟨fate, decides⟩ := exists_decides opens
        exact ⟨fate, decides, fun another second => eq_of_decides decides second⟩
      ends := by
        intro tag member
        obtain ⟨opening, -, closing, closes, -, -, lexeme, same⟩ := exists_between_of_mem_tags member
        exact ⟨closing, closes, lexeme, (congrArg Tag.stop same).symm⟩
      eq_of_endsWith := by
        intro closing tag member other otherMember ends otherEnds
        have wide := start_lt_stop_of_mem member
        have otherWide := start_lt_stop_of_mem otherMember
        have same : tag.stop = other.stop := ends.2.symm.trans otherEnds.2
        rcases eq_or_related_of_pairwise order.pairwise member otherMember with
          equal | earlier | later
        · exact equal
        · omega
        · omega
      kind_ne := fun opening left tag member later => kind_ne_of_mem_unterminated left member later }

end

end Pairing

end Stencil

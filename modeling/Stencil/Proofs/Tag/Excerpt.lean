import Stencil.Proofs.Tag.Pairing

/-!
# The text between two block tags

With separable delimiters the tags between two block tags of a text are those of the text between
them, read on its own. Both scans are aligned at either cut, and no tag that starts between the two
block tags can end after the second one starts.
-/

set_option autoImplicit false

namespace Stencil

/-- A block tag has an end of its own at either side: what it starts with is in no closing
delimiter, and what it ends with is in no opening delimiter. -/
structure Delimiters.Separable (delimiters : Delimiters) : Prop where
  head_notMem : delimiters.blockOpen.head delimiters.blockOpen_ne_nil ∉ delimiters.variableClose ∧
    delimiters.blockOpen.head delimiters.blockOpen_ne_nil ∉ delimiters.blockClose
  last_notMem : delimiters.blockClose.getLast delimiters.blockClose_ne_nil ∉ delimiters.variableOpen ∧
    delimiters.blockClose.getLast delimiters.blockClose_ne_nil ∉ delimiters.blockOpen

theorem Delimiters.separable_standard : Delimiters.standard.Separable :=
  ⟨by decide, by decide⟩

namespace Tag

/-- The same tag further to the right. -/
def shift (distance : Nat) (tag : Tag) : Tag :=
  { tag with start := tag.start + distance, stop := tag.stop + distance }

@[simp] theorem stop_shift (distance : Nat) (tag : Tag) :
    (tag.shift distance).stop = tag.stop + distance := rfl

@[simp] theorem shift_zero : shift 0 = id := rfl

end Tag

theorem Delimiters.lexeme_ne_nil (delimiters : Delimiters) {text : Text} {opening : Occurrence}
    (member : opening ∈ (Scan.ofText delimiters text).opens) : opening.lexeme ≠ [] := by
  rcases (exists_parts_of_mem_occurrences member).1 with same | same
  · exact same ▸ delimiters.variableOpen_ne_nil
  · exact same ▸ delimiters.blockOpen_ne_nil

theorem Delimiters.lexeme_ne_nil_of_closes (delimiters : Delimiters) {text : Text}
    {closing : Occurrence} (member : closing ∈ (Scan.ofText delimiters text).closes) :
    closing.lexeme ≠ [] := by
  rcases (exists_parts_of_mem_occurrences member).1 with same | same
  · exact same ▸ delimiters.variableClose_ne_nil
  · exact same ▸ delimiters.blockClose_ne_nil

theorem Occurrence.position_lt_stop {occurrence : Occurrence}
    (nonempty : occurrence.lexeme ≠ []) : occurrence.position < occurrence.stop := by
  have positive : occurrence.lexeme.size ≠ 0 := fun zero => nonempty (Text.size_eq_zero_iff.mp zero)
  rw [Occurrence.stop]
  omega

namespace Pairing

section

variable {delimiters : Delimiters} {text : Text} {closes : List Occurrence}

/-! ## Plain search in parts -/

theorem tags_pairPlainly_append (first second : List Occurrence) (reached : Nat) :
    (pairPlainly delimiters text closes (first ++ second) reached).tags =
      (pairPlainly delimiters text closes first reached).tags ++
        (pairPlainly delimiters text closes second
          (reachedAfter delimiters closes first reached)).tags := by
  induction first generalizing reached with
  | nil => rfl
  | cons opening first ih =>
      simp only [List.cons_append, pairPlainly, reachedAfter]
      split
      · exact ih reached
      · cases delimiters.closing? closes opening with
        | none => exact ih reached
        | some closing => simp only [ih, List.cons_append]

theorem unterminated_pairPlainly_append (first second : List Occurrence) (reached : Nat) :
    (pairPlainly delimiters text closes (first ++ second) reached).unterminated =
      (pairPlainly delimiters text closes first reached).unterminated ++
        (pairPlainly delimiters text closes second
          (reachedAfter delimiters closes first reached)).unterminated := by
  induction first generalizing reached with
  | nil => rfl
  | cons opening first ih =>
      simp only [List.cons_append, pairPlainly, reachedAfter]
      split
      · exact ih reached
      · cases delimiters.closing? closes opening with
        | none => simp only [ih, List.cons_append]
        | some closing => exact ih closing.stop

/-- Plain search has reached the end of a tag that it has made, if any. -/
theorem reachedAfter_eq (delimiters : Delimiters) (text : Text) (closes opens : List Occurrence)
    (reached : Nat) :
    reachedAfter delimiters closes opens reached = reached ∨
      ∃ tag ∈ (pairPlainly delimiters text closes opens reached).tags,
        tag.stop = reachedAfter delimiters closes opens reached := by
  induction opens generalizing reached with
  | nil => exact .inl rfl
  | cons opening opens ih =>
      simp only [pairPlainly, reachedAfter]
      split
      · exact ih reached
      · cases delimiters.closing? closes opening with
        | none => exact ih reached
        | some closing =>
            rcases ih closing.stop with unmoved | ⟨tag, member, same⟩
            · exact .inr ⟨_, List.mem_cons_self, unmoved.symm⟩
            · exact .inr ⟨tag, List.mem_cons_of_mem _ member, same⟩

theorem reachedAfter_le {opens : List Occurrence} {reached bound : Nat}
    (start : reached ≤ bound)
    (ends : ∀ tag ∈ (pairPlainly delimiters text closes opens reached).tags, tag.stop ≤ bound) :
    reachedAfter delimiters closes opens reached ≤ bound := by
  rcases reachedAfter_eq delimiters text closes opens reached with unmoved | ⟨tag, made, same⟩
  · rw [unmoved]
    exact start
  · rw [← same]
    exact ends tag made

private theorem le_reachedAfter (delimiters : Delimiters) (closes opens : List Occurrence)
    (reached : Nat) :
    reached ≤ reachedAfter delimiters closes opens reached := by
  induction opens generalizing reached with
  | nil => exact Nat.le_refl _
  | cons opening opens ih =>
      simp only [reachedAfter]
      split
      · exact ih reached
      · next passed =>
          cases search : delimiters.closing? closes opening with
          | none => exact ih reached
          | some closing =>
              obtain ⟨-, -, order⟩ := closing?_eq_some search
              have openingEnds := opening.position_le_stop
              have closingEnds := closing.position_le_stop
              exact Nat.le_trans (by omega) (ih closing.stop)

/-- Where the search starts does not matter, if no opening delimiter stands before it. -/
private theorem pairPlainly_of_le {opens : List Occurrence} (reached : Nat)
    (after : ∀ opening ∈ opens, reached ≤ opening.position) :
    pairPlainly delimiters text closes opens reached =
      pairPlainly delimiters text closes opens 0 := by
  induction opens with
  | nil => rfl
  | cons opening opens ih =>
      have start := after opening List.mem_cons_self
      simp only [pairPlainly, ih fun later member => after later (List.mem_cons_of_mem _ member),
        Nat.not_lt.mpr start, Nat.not_lt_zero]

/-- Closing delimiters before all opening delimiters are of no use. -/
private theorem pairPlainly_closes_left {left right opens : List Occurrence}
    (before : ∀ opening ∈ opens, ∀ closing ∈ left, closing.position < opening.stop)
    (reached : Nat) :
    pairPlainly delimiters text (left ++ right) opens reached =
      pairPlainly delimiters text right opens reached := by
  induction opens generalizing reached with
  | nil => rfl
  | cons opening opens ih =>
      have useless : delimiters.closing? (left ++ right) opening =
          delimiters.closing? right opening := by
        simp only [Delimiters.closing?, List.find?_append]
        rw [List.find?_eq_none.mpr, Option.none_or]
        intro closing member useful
        have early := before opening List.mem_cons_self closing member
        simp only [decide_eq_true_eq] at useful
        omega
      have later := ih fun other member => before other (List.mem_cons_of_mem _ member)
      simp only [pairPlainly, useless, later]

/-- Closing delimiters that end after all the tags are of no use. -/
private theorem pairPlainly_closes_right {left right opens : List Occurrence} {reached bound : Nat}
    (after : ∀ closing ∈ right, bound < closing.stop)
    (within : reachedAfter delimiters (left ++ right) opens reached ≤ bound) :
    pairPlainly delimiters text (left ++ right) opens reached =
      pairPlainly delimiters text left opens reached := by
  induction opens generalizing reached with
  | nil => rfl
  | cons opening opens ih =>
      simp only [reachedAfter] at within
      simp only [pairPlainly]
      split at within
      · next skipped => simp only [skipped, ↓reduceIte, ih within]
      · next passed =>
          simp only [passed, ↓reduceIte]
          cases near : delimiters.closing? left opening with
          | some closing =>
              have same : delimiters.closing? (left ++ right) opening = some closing := by
                rw [Delimiters.closing?] at near
                simp only [Delimiters.closing?, List.find?_append, near, Option.some_or]
              rw [same] at within
              simp only [same, ih within]
          | none =>
              have same : delimiters.closing? (left ++ right) opening =
                  delimiters.closing? right opening := by
                rw [Delimiters.closing?] at near
                simp only [Delimiters.closing?, List.find?_append, near, Option.none_or]
              rw [same] at within
              rw [same]
              cases far : delimiters.closing? right opening with
              | none =>
                  rw [far] at within
                  simp only [ih within]
              | some closing =>
                  rw [far] at within
                  have ends := after closing (closing?_eq_some far).1
                  have grows := le_reachedAfter delimiters (left ++ right) opens closing.stop
                  exact absurd (Nat.lt_of_lt_of_le ends grows) (Nat.not_lt.mpr within)

private theorem closing?_shift (distance : Nat) (opening : Occurrence) :
    delimiters.closing? (closes.map (Occurrence.shift distance)) (opening.shift distance) =
      (delimiters.closing? closes opening).map (Occurrence.shift distance) := by
  have kind : delimiters.kindOf (opening.shift distance) = delimiters.kindOf opening := rfl
  simp only [Delimiters.closing?, List.find?_map, kind]
  congr 2
  funext closing
  simp only [Function.comp, Occurrence.lexeme_shift, Occurrence.stop_shift,
    Occurrence.position_shift, Nat.add_le_add_iff_right]

/-- Plain search in a part of a text makes the same tags, further to the right. -/
private theorem pairPlainly_shift (delimiters : Delimiters) {whole part : Text}
    {closes opens : List Occurrence} (distance : Nat)
    (same : ∀ opening ∈ opens, ∀ closing ∈ closes, opening.stop ≤ closing.position → ∀ kind,
      Tag.between whole kind (opening.shift distance) (closing.shift distance) =
        (Tag.between part kind opening closing).shift distance) (reached : Nat) :
    pairPlainly delimiters whole (closes.map (Occurrence.shift distance))
        (opens.map (Occurrence.shift distance)) (reached + distance) =
      ⟨(pairPlainly delimiters part closes opens reached).tags.map (Tag.shift distance),
        (pairPlainly delimiters part closes opens reached).unterminated.map
          (Occurrence.shift distance)⟩ := by
  induction opens generalizing reached with
  | nil => rfl
  | cons opening opens ih =>
      have later := ih fun other member => same other (List.mem_cons_of_mem _ member)
      simp only [List.map_cons, pairPlainly, Occurrence.position_shift, Nat.add_lt_add_iff_right,
        closing?_shift]
      split
      · exact later reached
      · cases search : delimiters.closing? closes opening with
        | none => simp only [Option.map_none, later, List.map_cons]
        | some closing =>
            obtain ⟨member, -, order⟩ := closing?_eq_some search
            have here := same opening List.mem_cons_self closing member order
            simp only [Option.map_some, Occurrence.stop_shift, later, List.map_cons]
            rw [here (delimiters.kindOf (opening.shift distance))]
            rfl

/-! ## Cutting out the text between two block tags -/

/-- A text in three parts, the middle one between two block tags. -/
structure Excerpt (delimiters : Delimiters) (left middle right : Text) : Prop where
  opens : (Scan.ofText delimiters (left ++ (middle ++ right))).opens =
    (Scan.ofText delimiters left).opens ++
      ((Scan.ofText delimiters middle).opens.map (Occurrence.shift left.size) ++
        (Scan.ofText delimiters right).opens.map
          (Occurrence.shift (left.size + middle.size)))
  closes : (Scan.ofText delimiters (left ++ (middle ++ right))).closes =
    ((Scan.ofText delimiters left).closes ++
      (Scan.ofText delimiters middle).closes.map (Occurrence.shift left.size)) ++
        (Scan.ofText delimiters right).closes.map (Occurrence.shift (left.size + middle.size))

theorem map_shift_shift (first second : Nat) (list : List Occurrence) :
    (list.map (Occurrence.shift second)).map (Occurrence.shift first) =
      list.map (Occurrence.shift (first + second)) := by
  rw [List.map_map]
  congr 1
  funext occurrence
  simp only [Function.comp, Occurrence.shift, Occurrence.mk.injEq, and_true]
  omega

private theorem excerpt_of_edges (separable : delimiters.Separable) {left middle right : Text}
    {opening closing : Occurrence}
    (closes : closing ∈ (Scan.ofText delimiters (left ++ (middle ++ right))).closes)
    (closer : closing.lexeme = delimiters.blockClose) (stop : closing.stop = left.size)
    (opens : opening ∈ (Scan.ofText delimiters (left ++ (middle ++ right))).opens)
    (opener : opening.lexeme = delimiters.blockOpen)
    (start : opening.position = left.size + middle.size) :
    Excerpt delimiters left middle right := by
  have lastOfLeft : left.getLast? =
      some (delimiters.blockClose.getLast delimiters.blockClose_ne_nil) := by
    obtain ⟨-, before, after, same, position⟩ := exists_parts_of_mem_occurrences closes
    have regrouped := same.trans (List.append_assoc before _ after).symm
    obtain ⟨rfl, -⟩ := Text.append_inj_of_size_eq regrouped (by
      rw [Text.size_append, position, ← stop, Occurrence.stop])
    rw [closer]
    rw [List.getLast?_append, List.getLast?_eq_some_getLast delimiters.blockClose_ne_nil,
      Option.some_or]
  have headOfRight : right.head? =
      some (delimiters.blockOpen.head delimiters.blockOpen_ne_nil) := by
    obtain ⟨-, before, after, same, position⟩ := exists_parts_of_mem_occurrences opens
    rw [opener, ← List.append_assoc] at same
    obtain ⟨-, rfl⟩ := Text.append_inj_of_size_eq same (by
      rw [Text.size_append, position, start])
    rw [List.head?_append, List.head?_eq_some_head delimiters.blockOpen_ne_nil, Option.some_or]
  constructor
  · -- The opening scan is aligned where the second tag starts; nothing crosses the end of the first.
    have whole : left ++ (middle ++ right) = (left ++ middle) ++ right := by simp
    have member : opening ∈ (Scan.ofText delimiters ((left ++ middle) ++ right)).opens :=
      whole ▸ opens
    have atSecond : Uncrossed delimiters.variableOpen delimiters.blockOpen (left ++ middle) right :=
      uncrossed_of_mem member (.inl (by rw [start, Text.size_append]))
    have atFirst : Uncrossed delimiters.variableOpen delimiters.blockOpen left middle :=
      uncrossed_of_last_notMem lastOfLeft separable.last_notMem.1 separable.last_notMem.2
    simp only [Scan.ofText]
    rw [whole, atSecond.occurrences_append, atFirst.occurrences_append, Text.size_append,
      List.append_assoc]
  · -- The closing scan is aligned where the first tag ends; nothing crosses the start of the second.
    have atFirst : Uncrossed delimiters.variableClose delimiters.blockClose left
        (middle ++ right) := uncrossed_of_mem closes (.inr stop)
    have atSecond : Uncrossed delimiters.variableClose delimiters.blockClose middle right :=
      uncrossed_of_head_notMem headOfRight separable.head_notMem.1 separable.head_notMem.2
    simp only [Scan.ofText]
    rw [atFirst.occurrences_append, atSecond.occurrences_append, List.map_append, map_shift_shift,
      List.append_assoc]

private theorem between_shift (left : Text) {middle : Text} (right : Text)
    {opening closing : Occurrence}
    (opens : opening ∈ (Scan.ofText delimiters middle).opens)
    (closes : closing ∈ (Scan.ofText delimiters middle).closes)
    (order : opening.stop ≤ closing.position) (kind : TagKind) :
    Tag.between (left ++ (middle ++ right)) kind (opening.shift left.size)
        (closing.shift left.size) =
      (Tag.between middle kind opening closing).shift left.size := by
  have openingCuts := Occurrence.isCut_of_mem opens
  have closingCuts := Occurrence.isCut_of_mem closes
  have openingEnds := opening.position_le_stop
  have closingEnds := closing.position_le_stop
  have full := Text.slice_of_middle left right openingCuts.1 closingCuts.2 (by omega)
  have content := Text.slice_of_middle left right openingCuts.2 closingCuts.1 order
  simp only [Tag.between, Tag.shift, Tag.mk.injEq, true_and, Occurrence.position_shift,
    Occurrence.stop_shift]
  rw [Nat.add_comm _ left.size, Nat.add_comm _ left.size, Nat.add_comm _ left.size,
    Nat.add_comm _ left.size]
  exact ⟨full, content⟩

theorem pairPlainly_shift_ofText (delimiters : Delimiters) (left middle right : Text) :
    pairPlainly delimiters (left ++ (middle ++ right))
        ((Scan.ofText delimiters middle).closes.map (Occurrence.shift left.size))
        ((Scan.ofText delimiters middle).opens.map (Occurrence.shift left.size))
        (0 + left.size) =
      ⟨(ofText delimiters middle).tags.map (Tag.shift left.size),
        (ofText delimiters middle).unterminated.map (Occurrence.shift left.size)⟩ := by
  rw [ofText_eq_pairPlainly]
  exact pairPlainly_shift delimiters left.size
    (fun _ opens _ closes order kind => between_shift left right opens closes order kind) 0

theorem start_lt_stop_of_mem {tag : Tag} (member : tag ∈ (ofText delimiters text).tags) :
    tag.start < tag.stop := by
  rw [ofText_eq_pairPlainly] at member
  obtain ⟨opening, opens, -, closing, found, rfl⟩ := mem_tags_pairPlainly member
  obtain ⟨-, -, order⟩ := closing?_eq_some found
  have opensEnd := Occurrence.position_lt_stop (delimiters.lexeme_ne_nil opens)
  have closingEnds := closing.position_le_stop
  simp only [Tag.between]
  omega

/-- The opening delimiters of the middle part are paired as in the middle part alone, if the tags
before them do not reach into it and its own tags do not reach out of it. -/
theorem Excerpt.pairPlainly_middle {left middle right : Text}
    (excerpt : Excerpt delimiters left middle right) {reached : Nat} (before : reached ≤ left.size)
    (within : reachedAfter delimiters
        (Scan.ofText delimiters (left ++ (middle ++ right))).closes
        ((Scan.ofText delimiters middle).opens.map (Occurrence.shift left.size)) reached ≤
      left.size + middle.size) :
    pairPlainly delimiters (left ++ (middle ++ right))
        (Scan.ofText delimiters (left ++ (middle ++ right))).closes
        ((Scan.ofText delimiters middle).opens.map (Occurrence.shift left.size)) reached =
      ⟨(ofText delimiters middle).tags.map (Tag.shift left.size),
        (ofText delimiters middle).unterminated.map (Occurrence.shift left.size)⟩ := by
  have openingsAfter : ∀ opening ∈
      (Scan.ofText delimiters middle).opens.map (Occurrence.shift left.size),
      left.size ≤ opening.position ∧ opening.position < opening.stop := by
    intro opening member
    obtain ⟨original, opens, rfl⟩ := List.mem_map.mp member
    have ends := Occurrence.position_lt_stop (delimiters.lexeme_ne_nil opens)
    simp only [Occurrence.position_shift, Occurrence.stop_shift]
    omega
  have closesBefore : ∀ closing ∈ (Scan.ofText delimiters left).closes,
      closing.position ≤ left.size := by
    intro closing member
    have ends := closing.position_le_stop
    have inside := (Occurrence.isCut_of_mem member).2.le_size
    omega
  have closesAfter : ∀ closing ∈ (Scan.ofText delimiters right).closes.map
      (Occurrence.shift (left.size + middle.size)), left.size + middle.size < closing.stop := by
    intro closing member
    obtain ⟨original, closes, rfl⟩ := List.mem_map.mp member
    have ends := Occurrence.position_lt_stop (delimiters.lexeme_ne_nil_of_closes closes)
    simp only [Occurrence.stop_shift]
    omega
  rw [excerpt.closes] at within ⊢
  rw [pairPlainly_closes_right closesAfter within,
    pairPlainly_closes_left (fun opening opens closing closes => by
      have position := openingsAfter opening opens
      have limit := closesBefore closing closes
      omega),
    pairPlainly_of_le reached (fun opening opens =>
      Nat.le_trans before (openingsAfter opening opens).1),
    ← pairPlainly_of_le (0 + left.size) (fun opening opens => by
      have position := openingsAfter opening opens
      omega),
    pairPlainly_shift_ofText]

private theorem exists_edges_of_isBlock {tag : Tag} (member : tag ∈ (ofText delimiters text).tags)
    (block : tag.isBlock = true) :
    (∃ opening ∈ (Scan.ofText delimiters text).opens,
      opening.lexeme = delimiters.blockOpen ∧ opening.position = tag.start) ∧
      ∃ closing ∈ (Scan.ofText delimiters text).closes,
        closing.lexeme = delimiters.blockClose ∧ closing.stop = tag.stop := by
  rw [ofText_eq_pairPlainly] at member
  obtain ⟨opening, opens, -, closing, found, rfl⟩ := mem_tags_pairPlainly member
  obtain ⟨closes, closer, -⟩ := closing?_eq_some found
  have kind : delimiters.kindOf opening = .block := of_decide_eq_true block
  rw [kind] at closer
  refine ⟨⟨opening, opens, ?_, rfl⟩, closing, closes, closer, rfl⟩
  rcases (exists_parts_of_mem_occurrences opens).1 with same | same
  · simp [Delimiters.kindOf, same] at kind
  · exact same

private theorem filter_append_append {α : Type} {test : α → Bool} {left middle right : List α}
    (noneLeft : ∀ item ∈ left, test item = false) (allMiddle : ∀ item ∈ middle, test item = true)
    (noneRight : ∀ item ∈ right, test item = false) :
    (left ++ (middle ++ right)).filter test = middle := by
  rw [List.filter_append, List.filter_append, List.filter_eq_self.mpr allMiddle,
    List.filter_eq_nil_iff.mpr fun item member => by simp [noneLeft item member],
    List.filter_eq_nil_iff.mpr fun item member => by simp [noneRight item member],
    List.nil_append, List.append_nil]

/-- The tags that start between two block tags, told by their places. -/
private theorem filter_start_eq_inside {before inside after : List Tag} {first second : Tag}
    (tags : (ofText delimiters text).tags = before ++ first :: (inside ++ second :: after)) :
    (ofText delimiters text).tags.filter
        (fun tag => first.stop ≤ tag.start ∧ tag.start < second.start) = inside := by
  have nonempty : ∀ tag ∈ (ofText delimiters text).tags, tag.start < tag.stop :=
    fun tag member => start_lt_stop_of_mem member
  have order := (inOrder_ofText delimiters text).pairwise
  have regrouped : before ++ first :: (inside ++ second :: after) =
      (before ++ [first]) ++ (inside ++ second :: after) := by simp
  rw [tags, regrouped] at nonempty order
  rw [tags, regrouped]
  obtain ⟨orderLeft, orderRight, apart⟩ := List.pairwise_append.mp order
  obtain ⟨-, -, beforeFirst⟩ := List.pairwise_append.mp orderLeft
  obtain ⟨-, orderRight, insideBefore⟩ := List.pairwise_append.mp orderRight
  obtain ⟨secondBefore, -⟩ := List.pairwise_cons.mp orderRight
  apply filter_append_append
  · intro tag member
    have positive := nonempty tag (List.mem_append_left _ member)
    have firstPositive := nonempty first (by simp)
    have early : tag.start < first.stop := by
      rcases List.mem_append.mp member with earlier | same
      · have order := beforeFirst tag earlier first List.mem_cons_self
        omega
      · rw [List.mem_singleton.mp same]
        exact firstPositive
    simp only [decide_eq_false_iff_not]
    omega
  · intro tag member
    have positive := nonempty tag (by simp [member])
    have late := apart first (by simp) tag (List.mem_append_left _ member)
    have early := insideBefore tag member second List.mem_cons_self
    simp only [decide_eq_true_eq]
    omega
  · intro tag member
    have positive := nonempty second (by simp)
    have late : second.start ≤ tag.start := by
      rcases List.mem_cons.mp member with rfl | later
      · exact Nat.le_refl _
      · have order := secondBefore tag later
        omega
    simp only [decide_eq_false_iff_not]
    omega

theorem position_lt_size {part : Text} {opening : Occurrence}
    (opens : opening ∈ (Scan.ofText delimiters part).opens) : opening.position < part.size :=
  Nat.lt_of_lt_of_le (Occurrence.position_lt_stop (delimiters.lexeme_ne_nil opens))
    (Occurrence.isCut_of_mem opens).2.le_size

theorem position_lt_size_of_mem_unterminated {opening : Occurrence}
    (left : opening ∈ (ofText delimiters text).unterminated) : opening.position < text.size := by
  rw [ofText_eq_pairPlainly] at left
  exact position_lt_size (mem_unterminated_pairPlainly left)

private theorem start_lt_size_of_mem_tags {part : Text} {reached : Nat} {tag : Tag}
    (made : tag ∈ (pairPlainly delimiters text closes
      (Scan.ofText delimiters part).opens reached).tags) : tag.start < part.size := by
  obtain ⟨opening, opens, -, closing, -, rfl⟩ := mem_tags_pairPlainly made
  exact position_lt_size opens

private theorem start_of_mem_tags_shift {part : Text} {distance reached : Nat} {tag : Tag}
    (made : tag ∈ (pairPlainly delimiters text closes
      ((Scan.ofText delimiters part).opens.map (Occurrence.shift distance)) reached).tags) :
    reached ≤ tag.start ∧ distance ≤ tag.start ∧ tag.start < distance + part.size := by
  obtain ⟨opening, opens, after, closing, -, rfl⟩ := mem_tags_pairPlainly made
  obtain ⟨original, found, rfl⟩ := List.mem_map.mp opens
  have inside := position_lt_size found
  simp only [Tag.between, Occurrence.position_shift] at after ⊢
  omega

/-- Where a tag ends at the first cut and another one starts at the second cut, the tags that start
in the middle part are those of the middle part alone. -/
private theorem Excerpt.filter_start_eq {left middle right : Text}
    (excerpt : Excerpt delimiters left middle right)
    (bounded : ∀ tag ∈ (ofText delimiters (left ++ (middle ++ right))).tags,
      tag.start < left.size → tag.stop ≤ left.size)
    {second : Tag} (member : second ∈ (ofText delimiters (left ++ (middle ++ right))).tags)
    (start : second.start = left.size + middle.size) :
    (ofText delimiters (left ++ (middle ++ right))).tags.filter
          (fun tag => left.size ≤ tag.start ∧ tag.start < left.size + middle.size) =
        (ofText delimiters middle).tags.map (Tag.shift left.size) ∧
      ∀ opening ∈ (ofText delimiters middle).unterminated,
        opening.shift left.size ∈
          (ofText delimiters (left ++ (middle ++ right))).unterminated := by
  have plain := ofText_eq_pairPlainly delimiters (left ++ (middle ++ right))
  rw [excerpt.opens] at plain
  have tags := congrArg Pairing.tags plain
  have unterminated := congrArg Pairing.unterminated plain
  rw [tags_pairPlainly_append, tags_pairPlainly_append] at tags
  rw [unterminated_pairPlainly_append, unterminated_pairPlainly_append] at unterminated
  have leftEnds : reachedAfter delimiters
      (Scan.ofText delimiters (left ++ (middle ++ right))).closes
      (Scan.ofText delimiters left).opens 0 ≤ left.size := by
    apply reachedAfter_le (Nat.zero_le _)
    intro tag made
    exact bounded tag (tags ▸ List.mem_append_left _ made) (start_lt_size_of_mem_tags made)
  generalize reachedAfter delimiters (Scan.ofText delimiters (left ++ (middle ++ right))).closes
    (Scan.ofText delimiters left).opens 0 = reached at tags unterminated leftEnds
  have middleEnds : reachedAfter delimiters
      (Scan.ofText delimiters (left ++ (middle ++ right))).closes
      ((Scan.ofText delimiters middle).opens.map (Occurrence.shift left.size)) reached ≤
        left.size + middle.size := by
    rw [tags] at member
    rcases List.mem_append.mp member with made | made
    · have early := start_lt_size_of_mem_tags made
      omega
    · rcases List.mem_append.mp made with made | made
      · have early := start_of_mem_tags_shift made
        omega
      · have late := start_of_mem_tags_shift made
        omega
  have same := excerpt.pairPlainly_middle leftEnds middleEnds
  rw [same] at tags unterminated
  constructor
  · rw [tags]
    apply filter_append_append
    · intro tag made
      have early := start_lt_size_of_mem_tags made
      simp only [decide_eq_false_iff_not]
      omega
    · intro tag made
      rw [← congrArg Pairing.tags same] at made
      have inside := start_of_mem_tags_shift made
      simp only [decide_eq_true_eq]
      omega
    · intro tag made
      have late := start_of_mem_tags_shift made
      simp only [decide_eq_false_iff_not]
      omega
  · intro opening left
    rw [unterminated]
    exact List.mem_append_right _
      (List.mem_append_left _ (List.mem_map_of_mem left))

/-- With separable delimiters the tags between two block tags are those of the text between them. -/
theorem tags_slice (separable : delimiters.Separable) {before inside after : List Tag}
    {first second : Tag}
    (tags : (ofText delimiters text).tags = before ++ first :: (inside ++ second :: after))
    (firstBlock : first.isBlock = true) (secondBlock : second.isBlock = true) :
    (ofText delimiters (text.slice first.stop second.start)).tags.map (Tag.shift first.stop) =
        inside ∧
      ∀ opening ∈ (ofText delimiters (text.slice first.stop second.start)).unterminated,
        opening.shift first.stop ∈ (ofText delimiters text).unterminated := by
  have firstMember : first ∈ (ofText delimiters text).tags := by simp [tags]
  have secondMember : second ∈ (ofText delimiters text).tags := by simp [tags]
  have order := inOrder_ofText delimiters text
  have apart : first.stop ≤ second.start :=
    (List.pairwise_cons.mp (List.pairwise_append.mp (tags ▸ order.pairwise)).2.1).1 second (by simp)
  have selected := filter_start_eq_inside tags
  obtain ⟨-, closing, closes, closer, stop⟩ := exists_edges_of_isBlock firstMember firstBlock
  obtain ⟨⟨opening, opens, opener, start⟩, -⟩ := exists_edges_of_isBlock secondMember secondBlock
  obtain ⟨left, middle, right, rfl, leftSize, middleSize⟩ :=
    (order.liesIn first firstMember).isCut_stop.exists_parts
      (order.liesIn second secondMember).isCut_start apart
  have excerpt := excerpt_of_edges separable closes closer (stop.trans leftSize.symm) opens opener
    (start.trans middleSize.symm)
  have bounded : ∀ tag ∈ (ofText delimiters (left ++ (middle ++ right))).tags,
      tag.start < left.size → tag.stop ≤ left.size := by
    intro tag member before
    have firstEnds := (order.liesIn first firstMember).start_le_stop
    rcases eq_or_related_of_pairwise order.pairwise member firstMember with rfl | earlier | later
    · omega
    · omega
    · omega
  rw [← leftSize, ← middleSize] at selected ⊢
  rw [Text.slice_append_append, ← selected]
  obtain ⟨same, unterminated⟩ := excerpt.filter_start_eq bounded secondMember middleSize.symm
  exact ⟨same.symm, unterminated⟩

end

end Pairing

end Stencil

import Stencil.Proofs.Tag.Excerpt

/-!
# Recognition of a single tag

A content between an opening and a closing delimiter is one tag if both delimiters are found where they
have been written. Delimiters that are accepted need not be of that kind: of two delimiters that start
at one place that of variable tags is found, and a delimiter found earlier may reach into another one.
-/

set_option autoImplicit false

namespace Stencil

namespace Delimiters

def characters (delimiters : Delimiters) : List Char :=
  delimiters.variableOpen ++ delimiters.variableClose ++
    (delimiters.blockOpen ++ delimiters.blockClose)

theorem notMem_of_notMem_characters {delimiters : Delimiters} {character : Char}
    (outside : character ∉ delimiters.characters) :
    (character ∉ delimiters.variableOpen ∧ character ∉ delimiters.blockOpen) ∧
      (character ∉ delimiters.variableClose ∧ character ∉ delimiters.blockClose) := by
  simp only [characters, List.mem_append, not_or] at outside
  obtain ⟨⟨variableOpen, variableClose⟩, blockOpen, blockClose⟩ := outside
  exact ⟨⟨variableOpen, blockOpen⟩, variableClose, blockClose⟩

def opener (delimiters : Delimiters) : TagKind → Text
  | .variable => delimiters.variableOpen
  | .block => delimiters.blockOpen

def inTag (delimiters : Delimiters) (kind : TagKind) (content : Text) : Text :=
  delimiters.opener kind ++ (content ++ delimiters.closer kind)

end Delimiters

/-- The tag of a kind that makes up the whole text. -/
def Tag.whole (delimiters : Delimiters) (kind : TagKind) (content : Text) : Tag where
  kind := kind
  start := 0
  stop := Text.size (delimiters.inTag kind content)
  full := delimiters.inTag kind content
  content := content

section

variable {delimiters : Delimiters} {kind : TagKind} {content : Text}

theorem Delimiters.opener_kindOf {text : Text} {opening : Occurrence}
    (member : opening ∈ (Scan.ofText delimiters text).opens) :
    opening.lexeme = delimiters.opener (delimiters.kindOf opening) := by
  rcases (exists_parts_of_mem_occurrences member).1 with same | same
  · simp [kindOf, same, opener]
  · simp [kindOf, same, opener, delimiters.variableOpen_ne_blockOpen.symm]

theorem Delimiters.kindOf_opener (position : Nat) :
    delimiters.kindOf ⟨position, delimiters.opener kind⟩ = kind := by
  cases kind with
  | «variable» => simp [kindOf, opener]
  | block => simp [kindOf, opener, delimiters.variableOpen_ne_blockOpen.symm]

theorem Delimiters.closer_ne_nil : delimiters.closer kind ≠ [] := by
  cases kind with
  | «variable» => exact delimiters.variableClose_ne_nil
  | block => exact delimiters.blockClose_ne_nil

namespace Pairing

theorem pairPlainly_eq_nil {text : Text} {closes opens : List Occurrence} {reached : Nat}
    (before : ∀ opening ∈ opens, opening.position < reached) :
    pairPlainly delimiters text closes opens reached = ⟨[], []⟩ := by
  induction opens with
  | nil => rfl
  | cons opening opens ih =>
      rw [pairPlainly, if_pos (before opening List.mem_cons_self)]
      exact ih fun later member => before later (List.mem_cons_of_mem _ member)

/-- An opening delimiter at the start of a text is the first one found. -/
theorem exists_opens_eq_cons {text lexeme : Text}
    (member : ⟨0, lexeme⟩ ∈ (Scan.ofText delimiters text).opens) :
    ∃ others, (Scan.ofText delimiters text).opens = ⟨0, lexeme⟩ :: others := by
  have ordered : (Scan.ofText delimiters text).opens.Pairwise fun earlier later =>
      earlier.stop ≤ later.position := pairwise_occurrences _ _ _
  cases found : (Scan.ofText delimiters text).opens with
  | nil => rw [found] at member; cases member
  | cons opening others =>
      have nonempty : opening.lexeme ≠ [] := delimiters.lexeme_ne_nil
        (found ▸ List.mem_cons_self : opening ∈ (Scan.ofText delimiters text).opens)
      rw [found] at member ordered
      rcases List.mem_cons.mp member with same | later
      · exact ⟨others, by rw [same]⟩
      · have order := List.rel_of_pairwise_cons ordered later
        have positive := Occurrence.position_lt_stop nonempty
        dsimp only at order
        omega

/-- After a content without its characters a literal occurs at the end only. -/
private theorem size_eq_of_occurs {content literal before after : Text} (nonempty : literal ≠ [])
    (outside : ∀ character ∈ content, character ∉ literal)
    (same : content ++ literal = before ++ (literal ++ after)) : before.size = content.size := by
  by_cases inside : before.size < content.size
  · -- The first character of the literal would be one of the content.
    exfalso
    obtain ⟨middle, rfl, rest⟩ := Text.exists_append_of_size_le same.symm (Nat.le_of_lt inside)
    have continues : middle ≠ [] := by
      rintro rfl
      simp at inside
    obtain ⟨head, tail, rfl⟩ := List.exists_cons_of_ne_nil continues
    obtain ⟨first, others, rfl⟩ := List.exists_cons_of_ne_nil nonempty
    obtain rfl : first = head := (List.cons.inj rest).1
    exact outside first (by simp) List.mem_cons_self
  · have sizes := congrArg Text.size same
    simp only [Text.size_append] at sizes
    omega

section

variable (outside : ∀ character ∈ content, character ∉ delimiters.characters)

include outside

/-- A closing delimiter of the right kind after the opening one is the one after the content. -/
private theorem eq_of_mem_closes {closing : Occurrence}
    (member : closing ∈ (Scan.ofText delimiters (delimiters.inTag kind content)).closes)
    (lexeme : closing.lexeme = delimiters.closer kind)
    (after : (delimiters.opener kind).size ≤ closing.position) :
    closing = ⟨(delimiters.opener kind).size + content.size, delimiters.closer kind⟩ := by
  obtain ⟨-, before, rest, whole, position⟩ := exists_parts_of_mem_occurrences member
  rw [Delimiters.inTag, lexeme] at whole
  obtain ⟨middle, rfl, later⟩ := Text.exists_append_of_size_le whole (by omega)
  have apart : ∀ character ∈ content, character ∉ delimiters.closer kind := by
    intro character among
    have closes := (Delimiters.notMem_of_notMem_characters (outside character among)).2
    cases kind with
    | «variable» => exact closes.1
    | block => exact closes.2
  have size := size_eq_of_occurs Delimiters.closer_ne_nil apart later
  obtain ⟨start, _⟩ := closing
  obtain rfl : _ = delimiters.closer kind := lexeme
  simp only [Text.size_append, size] at position
  rw [← position]

private theorem closing?_inTag
    (closes : ⟨(delimiters.opener kind).size + content.size, delimiters.closer kind⟩ ∈
      (Scan.ofText delimiters (delimiters.inTag kind content)).closes) :
    delimiters.closing? (Scan.ofText delimiters (delimiters.inTag kind content)).closes
        ⟨0, delimiters.opener kind⟩ =
      some ⟨(delimiters.opener kind).size + content.size, delimiters.closer kind⟩ := by
  cases search : delimiters.closing? (Scan.ofText delimiters (delimiters.inTag kind content)).closes
      ⟨0, delimiters.opener kind⟩ with
  | none =>
      have absent := List.find?_eq_none.mp search _ closes
      simp [Occurrence.stop, Delimiters.kindOf_opener] at absent
  | some closing =>
      obtain ⟨member, lexeme, after⟩ := closing?_eq_some search
      rw [Delimiters.kindOf_opener] at lexeme
      rw [eq_of_mem_closes outside member lexeme (by simpa [Occurrence.stop] using after)]

end

theorem size_inTag : Text.size (delimiters.inTag kind content) =
    (delimiters.opener kind).size + content.size + (delimiters.closer kind).size := by
  simp only [Delimiters.inTag, Text.size_append, Nat.add_assoc]

private theorem between_inTag :
    Tag.between (delimiters.inTag kind content) kind ⟨0, delimiters.opener kind⟩
        ⟨(delimiters.opener kind).size + content.size, delimiters.closer kind⟩ =
      .whole delimiters kind content := by
  have full : (delimiters.inTag kind content).slice 0
      ((delimiters.opener kind).size + content.size + (delimiters.closer kind).size) =
        delimiters.inTag kind content := by
    rw [← size_inTag, ← Text.dropBytes_eq_slice (Text.isCut_zero _), Text.dropBytes_zero]
  have inside : (delimiters.inTag kind content).slice (delimiters.opener kind).size
      ((delimiters.opener kind).size + content.size) = content :=
    Text.slice_append_append _ content _
  simp only [Tag.between, Tag.whole, Occurrence.stop, Nat.zero_add, full, inside, size_inTag]

/-- A content without characters of delimiters makes a single tag exactly if its two delimiters are
found. -/
theorem ofText_inTag (outside : ∀ character ∈ content, character ∉ delimiters.characters) :
    ofText delimiters (delimiters.inTag kind content) = ⟨[.whole delimiters kind content], []⟩ ↔
      ⟨0, delimiters.opener kind⟩ ∈
          (Scan.ofText delimiters (delimiters.inTag kind content)).opens ∧
        ⟨(delimiters.opener kind).size + content.size, delimiters.closer kind⟩ ∈
          (Scan.ofText delimiters (delimiters.inTag kind content)).closes := by
  rw [ofText_eq_pairPlainly]
  constructor
  · intro single
    have made : Tag.whole delimiters kind content ∈ (pairPlainly delimiters
        (delimiters.inTag kind content) (Scan.ofText delimiters (delimiters.inTag kind content)).closes
        (Scan.ofText delimiters (delimiters.inTag kind content)).opens 0).tags := by
      rw [single]
      exact List.mem_cons_self
    obtain ⟨⟨start, opener⟩, opens, -, ⟨stop, closer⟩, search, same⟩ := mem_tags_pairPlainly made
    obtain ⟨closes, lexeme, -⟩ := closing?_eq_some search
    -- The kind and the two ends of the tag tell which delimiters it is made of.
    have kinds : kind = delimiters.kindOf ⟨start, opener⟩ := congrArg Tag.kind same
    have first : 0 = start := congrArg Tag.start same
    have last : Text.size (delimiters.inTag kind content) = stop + closer.size :=
      congrArg Tag.stop same
    have opening : opener = delimiters.opener _ := Delimiters.opener_kindOf opens
    rw [← kinds] at opening lexeme
    dsimp only at lexeme
    subst first opening lexeme
    rw [size_inTag, Nat.add_right_cancel_iff] at last
    exact ⟨opens, last ▸ closes⟩
  · rintro ⟨opens, closes⟩
    obtain ⟨others, found⟩ := exists_opens_eq_cons opens
    have later : ∀ opening ∈ others, opening.position <
        (delimiters.opener kind).size + content.size + (delimiters.closer kind).size := by
      intro opening member
      rw [← size_inTag]
      exact position_lt_size (found ▸ List.mem_cons_of_mem _ member)
    rw [found, pairPlainly, if_neg (Nat.lt_irrefl 0), closing?_inTag outside closes]
    simp only [Delimiters.kindOf_opener, between_inTag, Occurrence.stop, pairPlainly_eq_nil later]

end Pairing

/-! ## Where the delimiters are found -/

theorem leading?_append_eq_first (first second rest : Text) :
    leading? first second (first ++ rest) = some first := by
  rw [leading?, if_pos (List.isPrefixOf_iff_prefix.mpr (List.prefix_append _ _))]

theorem leading?_append_eq_second_iff (first second rest : Text) :
    leading? first second (second ++ rest) = some second ↔
      (first <+: second ++ rest → first = second) := by
  by_cases here : first <+: second ++ rest
  · rw [leading?, if_pos (List.isPrefixOf_iff_prefix.mpr here)]
    simp [here]
  · rw [leading?, if_neg (mt List.isPrefixOf_iff_prefix.mp here),
      if_pos (List.isPrefixOf_iff_prefix.mpr (List.prefix_append _ _))]
    simp [here]

/-- A literal that starts a text reaches past a left part only into a part with its characters. -/
private theorem prefix_append_append_iff {literal left content right : Text}
    (outside : ∀ character ∈ content, character ∉ literal) :
    literal <+: left ++ (content ++ right) ↔
      literal <+: left ∨ (content = [] ∧ literal <+: left ++ right) := by
  constructor
  · rintro ⟨rest, same⟩
    by_cases short : literal.size ≤ left.size
    · obtain ⟨middle, whole, -⟩ := Text.exists_append_of_size_le same short
      exact .inl ⟨middle, whole.symm⟩
    · right
      obtain ⟨middle, rfl, later⟩ := Text.exists_append_of_size_le same.symm (by omega)
      have nonempty : middle ≠ [] := by
        rintro rfl
        simp at short
      obtain ⟨head, tail, rfl⟩ := List.exists_cons_of_ne_nil nonempty
      cases content with
      | nil => exact ⟨rfl, rest, same⟩
      | cons first others =>
          obtain rfl : first = head := (List.cons.inj later).1
          exact (outside first List.mem_cons_self (by simp)).elim
  · rintro (here | ⟨rfl, here⟩)
    · exact here.trans (List.prefix_append _ _)
    · exact here

section

variable (outside : ∀ character ∈ content, character ∉ delimiters.characters)

include outside

private theorem uncrossed_inTag_iff {opener closer : Text} :
    Uncrossed delimiters.variableClose delimiters.blockClose (opener ++ content) closer ↔
      (content = [] →
        Uncrossed delimiters.variableClose delimiters.blockClose opener closer) := by
  constructor
  · rintro uncrossed rfl
    rwa [List.append_nil] at uncrossed
  · intro uncrossed
    by_cases empty : content = []
    · subst empty
      rw [List.append_nil]
      exact uncrossed rfl
    · refine uncrossed_of_last fun last ends => ?_
      rw [List.getLast?_append, Option.or_of_isSome (by simpa using empty)] at ends
      obtain ⟨-, closes⟩ :=
        Delimiters.notMem_of_notMem_characters (outside last (List.mem_of_getLast? ends))
      exact closes.imp (mt fun member => List.dropLast_subset _ member)
        (mt fun member => List.dropLast_subset _ member)

omit outside in
private theorem opens_inTag_variable :
    ⟨0, delimiters.variableOpen⟩ ∈
      (Scan.ofText delimiters (delimiters.inTag .variable content)).opens :=
  (mem_occurrences_zero_iff delimiters.variableOpen_ne_nil delimiters.blockOpen_ne_nil).mpr
    (leading?_append_eq_first _ _ _)

theorem opens_inTag_block_iff :
    ⟨0, delimiters.blockOpen⟩ ∈ (Scan.ofText delimiters (delimiters.inTag .block content)).opens ↔
      ¬delimiters.variableOpen <+: delimiters.blockOpen ∧
        (content = [] →
          ¬delimiters.variableOpen <+: delimiters.blockOpen ++ delimiters.blockClose) := by
  have opens : ∀ character ∈ content, character ∉ delimiters.variableOpen :=
    fun character member => (Delimiters.notMem_of_notMem_characters (outside character member)).1.1
  refine (mem_occurrences_zero_iff delimiters.variableOpen_ne_nil
    delimiters.blockOpen_ne_nil).trans ?_
  rw [Delimiters.inTag, Delimiters.opener, Delimiters.closer, leading?_append_eq_second_iff,
    prefix_append_append_iff opens]
  simp only [delimiters.variableOpen_ne_blockOpen, imp_false, not_or, not_and]

theorem closes_inTag_iff :
    ⟨(delimiters.opener kind).size + content.size, delimiters.closer kind⟩ ∈
        (Scan.ofText delimiters (delimiters.inTag kind content)).closes ↔
      (content = [] → Uncrossed delimiters.variableClose delimiters.blockClose
          (delimiters.opener kind) (delimiters.closer kind)) ∧
        leading? delimiters.variableClose delimiters.blockClose (delimiters.closer kind) =
          some (delimiters.closer kind) := by
  rw [← uncrossed_inTag_iff outside, ← Text.size_append, Scan.ofText, Delimiters.inTag,
    ← List.append_assoc]
  exact mem_occurrences_append_iff delimiters.variableClose_ne_nil delimiters.blockClose_ne_nil

/-- Which tags are recognised. A variable tag with a content always is. A block tag with a content is,
unless the opening delimiter of variable tags begins that of block tags, or the closing one begins the
closing one of block tags and is shorter. A tag without a content is recognised if besides no closing
delimiter is found across the end of its opening one, and, for a block tag, if the opening delimiter of
variable tags does not begin the whole tag. -/
theorem ofText_inTag_iff :
    (Pairing.ofText delimiters (delimiters.inTag .variable content) =
          ⟨[.whole delimiters .variable content], []⟩ ↔
        (content = [] → Uncrossed delimiters.variableClose delimiters.blockClose
          delimiters.variableOpen delimiters.variableClose)) ∧
      (Pairing.ofText delimiters (delimiters.inTag .block content) =
          ⟨[.whole delimiters .block content], []⟩ ↔
        (¬delimiters.variableOpen <+: delimiters.blockOpen ∧
            (delimiters.variableClose <+: delimiters.blockClose →
              delimiters.variableClose = delimiters.blockClose)) ∧
          (content = [] →
            ¬delimiters.variableOpen <+: delimiters.blockOpen ++ delimiters.blockClose ∧
              Uncrossed delimiters.variableClose delimiters.blockClose delimiters.blockOpen
                delimiters.blockClose)) := by
  have variableCloses : leading? delimiters.variableClose delimiters.blockClose
      delimiters.variableClose = some delimiters.variableClose := by
    simpa using leading?_append_eq_first _ _ []
  have blockCloses : leading? delimiters.variableClose delimiters.blockClose
        delimiters.blockClose = some delimiters.blockClose ↔
      (delimiters.variableClose <+: delimiters.blockClose →
        delimiters.variableClose = delimiters.blockClose) := by
    simpa using leading?_append_eq_second_iff _ _ []
  constructor
  · rw [Pairing.ofText_inTag outside, closes_inTag_iff outside]
    simp only [Delimiters.opener, Delimiters.closer, variableCloses, and_true]
    exact and_iff_right opens_inTag_variable
  · rw [Pairing.ofText_inTag outside, closes_inTag_iff outside]
    simp only [Delimiters.opener, Delimiters.closer, opens_inTag_block_iff outside, blockCloses]
    constructor
    · rintro ⟨⟨opens, apart⟩, uncrossed, closes⟩
      exact ⟨⟨opens, closes⟩, fun empty => ⟨apart empty, uncrossed empty⟩⟩
    · rintro ⟨⟨opens, closes⟩, without⟩
      exact ⟨⟨opens, fun empty => (without empty).1⟩, fun empty => (without empty).2, closes⟩

end

end

/-- Both kinds of tags may start with the same character. -/
theorem ofText_inTag_iff_angles :
    let delimiters : Delimiters := ⟨"<<".toList, ">>".toList, "<%".toList, "%>".toList, by decide,
      by decide, by decide, by decide, by decide⟩
    let content := "é".toList
    (∀ character ∈ content, character ∉ delimiters.characters) ∧
      Pairing.ofText delimiters "<<é>>".toList = ⟨[.whole delimiters .variable content], []⟩ ∧
        Pairing.ofText delimiters "<%é%>".toList = ⟨[.whole delimiters .block content], []⟩ := by
  intro delimiters content
  have outside : ∀ character ∈ content, character ∉ delimiters.characters :=
    forall_mem_of_all (by decide)
  have nonempty : content ≠ [] := by decide
  refine ⟨outside, (ofText_inTag_iff outside).1.mpr fun empty => absurd empty nonempty,
    (ofText_inTag_iff outside).2.mpr ⟨?_, fun empty => absurd empty nonempty⟩⟩
  decide

/-- Single braces for variables begin the standard delimiters of blocks, so that no block tag is
recognised. -/
theorem not_recognised_of_prefix :
    ¬∀ (delimiters : Delimiters) (content : Text),
      (∀ character ∈ content, character ∉ delimiters.characters) →
        Pairing.ofText delimiters (delimiters.inTag .block content) =
            ⟨[.whole delimiters .block content], []⟩ ∧
          Pairing.ofText delimiters (delimiters.inTag .variable content) =
            ⟨[.whole delimiters .variable content], []⟩ := by
  intro recognised
  obtain ⟨block, -⟩ := recognised ⟨['{'], ['}'], ['{', '%'], ['%', '}'], by decide, by decide,
    by decide, by decide, by decide⟩ ['x'] (forall_mem_of_all (by decide))
  exact absurd block (by decide)

end Stencil

import Stencil.Proofs.Tag.Recognition

/-!
# Tags of two texts side by side

Where no delimiter crosses the seam between two texts, and every opening delimiter of the left one is
closed there, the tags of the whole are the tags of the left text followed by those of the right
text, further to the right.
-/

set_option autoImplicit false

namespace Stencil

/-- Nothing reaches across the seam of two texts: neither a delimiter nor an open tag. -/
structure CleanSeam (delimiters : Delimiters) (left right : Text) : Prop where
  opens : Uncrossed delimiters.variableOpen delimiters.blockOpen left right
  closes : Uncrossed delimiters.variableClose delimiters.blockClose left right
  terminated : (Pairing.ofText delimiters left).unterminated = []

@[simp] theorem Occurrence.shift_zero : Occurrence.shift 0 = id := rfl

namespace Pairing

variable {delimiters : Delimiters} {left right : Text}

/-- Where every opening delimiter is closed, closing delimiters further right are of no use. -/
private theorem pairPlainly_closes_append {text : Text} {closes more opens : List Occurrence}
    {reached : Nat}
    (terminated : (pairPlainly delimiters text closes opens reached).unterminated = []) :
    pairPlainly delimiters text (closes ++ more) opens reached =
      pairPlainly delimiters text closes opens reached := by
  induction opens generalizing reached with
  | nil => rfl
  | cons opening opens ih =>
      simp only [pairPlainly] at terminated ⊢
      split
      · next skipped =>
          rw [if_pos skipped] at terminated
          exact ih terminated
      · next passed =>
          rw [if_neg passed] at terminated
          cases near : delimiters.closing? closes opening with
          | none =>
              rw [near] at terminated
              cases terminated
          | some closing =>
              rw [near] at terminated
              have same : delimiters.closing? (closes ++ more) opening = some closing := by
                rw [Delimiters.closing?] at near ⊢
                rw [List.find?_append, near, Option.some_or]
              rw [same]
              simp only [ih terminated]

private theorem pairPlainly_append {text : Text} {closes : List Occurrence}
    (first second : List Occurrence) (reached : Nat) :
    pairPlainly delimiters text closes (first ++ second) reached =
      ⟨(pairPlainly delimiters text closes first reached).tags ++
          (pairPlainly delimiters text closes second
            (reachedAfter delimiters closes first reached)).tags,
        (pairPlainly delimiters text closes first reached).unterminated ++
          (pairPlainly delimiters text closes second
            (reachedAfter delimiters closes first reached)).unterminated⟩ := by
  rw [← tags_pairPlainly_append, ← unterminated_pairPlainly_append]

private theorem pairPlainly_left (delimiters : Delimiters) (left right : Text) :
    pairPlainly delimiters (left ++ right) (Scan.ofText delimiters left).closes
        (Scan.ofText delimiters left).opens 0 =
      ofText delimiters left := by
  have unmoved := pairPlainly_shift_ofText delimiters [] left right
  simpa using unmoved

theorem stop_le_size_of_mem {text : Text} {tag : Tag}
    (member : tag ∈ (ofText delimiters text).tags) : tag.stop ≤ text.size :=
  ((inOrder_ofText delimiters text).liesIn tag member).isCut_stop.le_size

end Pairing

namespace CleanSeam

variable {delimiters : Delimiters} {left right : Text}

/-- A seam is clean where a character that belongs to no delimiter stands on one side of it. -/
theorem of_notMem (terminated : (Pairing.ofText delimiters left).unterminated = [])
    (outside : (∀ last, left.getLast? = some last → last ∉ delimiters.characters) ∨
      ∀ head, right.head? = some head → head ∉ delimiters.characters) :
    CleanSeam delimiters left right := by
  rcases outside with lastOutside | headOutside
  · refine ⟨uncrossed_of_last ?_, uncrossed_of_last ?_, terminated⟩
    · intro last ends
      obtain ⟨opens, -⟩ := Delimiters.notMem_of_notMem_characters (lastOutside last ends)
      exact opens.imp (mt fun member => List.dropLast_subset _ member)
        (mt fun member => List.dropLast_subset _ member)
    · intro last ends
      obtain ⟨-, closes⟩ := Delimiters.notMem_of_notMem_characters (lastOutside last ends)
      exact closes.imp (mt fun member => List.dropLast_subset _ member)
        (mt fun member => List.dropLast_subset _ member)
  · refine ⟨uncrossed_of_head ?_, uncrossed_of_head ?_, terminated⟩
    · intro head starts
      exact (Delimiters.notMem_of_notMem_characters (headOutside head starts)).1
    · intro head starts
      exact (Delimiters.notMem_of_notMem_characters (headOutside head starts)).2

private theorem excerpt (seam : CleanSeam delimiters left right) :
    Pairing.Excerpt delimiters left right [] := by
  constructor
  · have opens := seam.opens.occurrences_append
    simpa [Scan.ofText, occurrences, occurrencesFrom] using opens
  · have closes := seam.closes.occurrences_append
    simpa [Scan.ofText, occurrences, occurrencesFrom] using closes

/-- The tags of two texts with a clean seam, and what is left open. -/
theorem ofText_append (seam : CleanSeam delimiters left right) :
    Pairing.ofText delimiters (left ++ right) =
      ⟨(Pairing.ofText delimiters left).tags ++
          (Pairing.ofText delimiters right).tags.map (Tag.shift left.size),
        (Pairing.ofText delimiters right).unterminated.map (Occurrence.shift left.size)⟩ := by
  have excerpt := seam.excerpt
  have opens := seam.opens.occurrences_append
  have closes := seam.closes.occurrences_append
  -- What is paired on the left of the seam.
  have alone := Pairing.pairPlainly_left delimiters left right
  have first : Pairing.pairPlainly delimiters (left ++ right)
      (Scan.ofText delimiters (left ++ right)).closes (Scan.ofText delimiters left).opens 0 =
        Pairing.ofText delimiters left := by
    simp only [Scan.ofText] at alone ⊢
    rw [closes, Pairing.pairPlainly_closes_append (by rw [alone]; exact seam.terminated), alone]
  generalize reaches : Pairing.reachedAfter delimiters
    (Scan.ofText delimiters (left ++ right)).closes (Scan.ofText delimiters left).opens 0 = reached
  have reachedLeft : reached ≤ left.size := by
    rw [← reaches]
    apply Pairing.reachedAfter_le (Nat.zero_le _)
    rw [first]
    exact fun tag member => Pairing.stop_le_size_of_mem member
  -- What is paired on its right.
  have ends (tag : Tag) (made : tag ∈ (Pairing.pairPlainly delimiters (left ++ (right ++ []))
      (Scan.ofText delimiters (left ++ (right ++ []))).closes
      ((Scan.ofText delimiters right).opens.map (Occurrence.shift left.size)) reached).tags) :
      tag.stop ≤ left.size + right.size := by
    obtain ⟨opening, -, -, closing, found, rfl⟩ := Pairing.mem_tags_pairPlainly made
    have within := (Occurrence.isCut_of_mem (Pairing.closing?_eq_some found).1).2.le_size
    simpa [Tag.between] using within
  have second := excerpt.pairPlainly_middle reachedLeft
    (Pairing.reachedAfter_le (Nat.le_trans reachedLeft (Nat.le_add_right _ _)) ends)
  rw [List.append_nil] at second
  have whole : (Scan.ofText delimiters (left ++ right)).opens =
      (Scan.ofText delimiters left).opens ++
        (Scan.ofText delimiters right).opens.map (Occurrence.shift left.size) := opens
  rw [Pairing.ofText_eq_pairPlainly, whole, Pairing.pairPlainly_append, reaches, first, second,
    seam.terminated, List.nil_append]

end CleanSeam

/-! ## A single tag -/

section

variable {first second content : Text}

/-- No delimiter occurs in a text without their characters. -/
theorem occurrences_eq_nil (firstNonempty : first ≠ []) (secondNonempty : second ≠ [])
    (outside : ∀ character ∈ content, character ∉ first ∧ character ∉ second) :
    occurrences first second content = [] := by
  apply List.eq_nil_iff_forall_not_mem.mpr
  intro occurrence member
  obtain ⟨lexeme, before, after, same, -⟩ := exists_parts_of_mem_occurrences member
  have nonempty : occurrence.lexeme ≠ [] := by
    rcases lexeme with same | same
    · exact same ▸ firstNonempty
    · exact same ▸ secondNonempty
  obtain ⟨head, rest, starts⟩ := List.exists_cons_of_ne_nil nonempty
  obtain ⟨notFirst, notSecond⟩ := outside head (by simp [same, starts])
  rcases lexeme with same | same
  · exact notFirst (by simp [← same, starts])
  · exact notSecond (by simp [← same, starts])

/-- Around a text without characters of delimiters, the delimiters are found on either side of it. -/
theorem occurrences_append_append (firstNonempty : first ≠ []) (secondNonempty : second ≠ [])
    (nonempty : content ≠ [])
    (outside : ∀ character ∈ content, character ∉ first ∧ character ∉ second)
    (opener closer : Text) :
    occurrences first second (opener ++ (content ++ closer)) =
      occurrences first second opener ++
        (occurrences first second closer).map (Occurrence.shift (opener.size + content.size)) := by
  have after : Uncrossed first second opener (content ++ closer) := by
    apply uncrossed_of_head
    intro head starts
    obtain ⟨beginning, rest, rfl⟩ := List.exists_cons_of_ne_nil nonempty
    cases starts
    exact outside head List.mem_cons_self
  have before : Uncrossed first second content closer := by
    apply uncrossed_of_last
    intro last ends
    exact (outside last (List.mem_of_getLast? ends)).imp (mt fun member => List.dropLast_subset _ member)
      (mt fun member => List.dropLast_subset _ member)
  rw [after.occurrences_append, before.occurrences_append,
    occurrences_eq_nil firstNonempty secondNonempty outside, List.nil_append,
    Pairing.map_shift_shift]

end

/-- A content between the standard delimiters of block tags. -/
def Text.inBlockTag (content : Text) : Text := "\x7b%".toList ++ (content ++ "%\x7d".toList)

theorem Text.size_inBlockTag (content : Text) :
    Text.size content.inBlockTag = content.size + 4 := by
  rw [inBlockTag, size_append, size_append, Nat.add_left_comm]
  rfl

/-- The block tag with a content, at the start of a text. -/
def Tag.ofContent (content : Text) : Tag where
  kind := .block
  start := 0
  stop := content.size + 4
  full := content.inBlockTag
  content := content

def Occurrence.afterContent (content : Text) : Occurrence :=
  ⟨0 + (2 + content.size), "%\x7d".toList⟩

theorem Occurrence.stop_afterContent (content : Text) :
    (afterContent content).stop = content.size + 4 := by
  rw [afterContent, stop, Nat.zero_add, Nat.add_comm 2, Nat.add_assoc]
  rfl

section

variable {content : Text} (nonempty : content ≠ [])
  (outside : ∀ character ∈ content, character ∉ Delimiters.standard.characters)

include nonempty outside

/-- A content without characters of delimiters makes a single block tag. -/
theorem Pairing.ofText_inBlockTag :
    ofText .standard content.inBlockTag = ⟨[.ofContent content], []⟩ := by
  have single : ofText .standard (Delimiters.standard.inTag .block content) =
      ⟨[.whole .standard .block content], []⟩ := (ofText_inTag outside).mpr
    ⟨(opens_inTag_block_iff outside).mpr ⟨by decide, fun empty => absurd empty nonempty⟩,
      (closes_inTag_iff outside).mpr ⟨fun empty => absurd empty nonempty, by decide⟩⟩
  have whole : Tag.whole .standard .block content = .ofContent content := by
    rw [Tag.ofContent, ← Text.size_inBlockTag]
    rfl
  rw [← whole]
  exact single

/-- Nothing reaches out of a block tag. -/
theorem CleanSeam.inBlockTag (rest : Text) : CleanSeam .standard content.inBlockTag rest := by
  constructor
  · apply uncrossed_of_last
    intro last ends
    have same : content.inBlockTag = ("\x7b%".toList ++ (content ++ ['%'])) ++ ['}'] := by
      simp [Text.inBlockTag]
    rw [same, List.getLast?_append] at ends
    cases ends
    decide
  · have regrouped : content.inBlockTag ++ rest =
        "\x7b%".toList ++ (content ++ ("%\x7d".toList ++ rest)) := by
      simp [Text.inBlockTag]
    have here : ⟨0, "%\x7d".toList⟩ ∈ occurrences Delimiters.standard.variableClose
        Delimiters.standard.blockClose ("%\x7d".toList ++ rest) :=
      List.mem_cons_self
    have member : .afterContent content ∈ occurrences Delimiters.standard.variableClose
        Delimiters.standard.blockClose (content.inBlockTag ++ rest) := by
      rw [regrouped, occurrences_append_append (by decide) (by decide) nonempty
        fun character member =>
          (Delimiters.notMem_of_notMem_characters (outside character member)).2]
      exact List.mem_append_right _ (List.mem_map_of_mem here)
    apply uncrossed_of_mem member
    exact .inr ((Occurrence.stop_afterContent content).trans (Text.size_inBlockTag content).symm)
  · rw [Pairing.ofText_inBlockTag nonempty outside]

end

end Stencil

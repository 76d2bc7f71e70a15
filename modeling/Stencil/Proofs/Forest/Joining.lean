import Stencil.Proofs.Forest.Rereading
import Stencil.Proofs.Tag.Joining

/-!
# Forests of two texts side by side

Where two texts have a clean seam, and the left one leaves no block open, the whole can be read exactly
if both texts can, and its forest is that of the left text followed by that of the right text.
-/

set_option autoImplicit false

namespace Stencil

namespace Forest

@[simp] theorem findings_none_append (left right : Forest) (elseSeen : Bool) :
    (left ++ right).findings none elseSeen =
      left.findings none elseSeen ++ right.findings none elseSeen := by
  induction left with
  | nil => rfl
  | tag single rest ih =>
      simp only [tag_append, findings, ih, reduceCtorEq, decide_false, Bool.and_false,
        Bool.false_and, Bool.false_eq_true, ↓reduceIte]
      split <;> rfl
  | group family opener body closer rest _ restIH =>
      cases closer with
      | none => simp [findings, restIH]
      | some closing =>
          simp only [group_append, findings, restIH]
          split <;> simp

variable {delimiters : Delimiters} {mode : Mode} {limit enough : Nat} {left right : Text}
  {first whole : Forest}

theorem ofTags_append_shift_eq_ok_iff {tags later : List Tag}
    (made : ofTags enough tags = .ok first) (closed : first.Closed) (distance : Nat) :
    ofTags limit (tags ++ later.map (Tag.shift distance)) = .ok whole ↔
      ofTags limit tags = .ok first ∧
        ∃ second, ofTags limit later = .ok second ∧ whole = first ++ second.shift distance := by
  obtain ⟨nested, -, flat⟩ := of_ofTags made
  constructor
  · intro joined
    -- With a limit that is large enough for both, the whole is known to start with the left forest.
    have larger := ofTags_mono (Nat.le_max_left limit enough) joined
    have madeLarger := ofTags_mono (Nat.le_max_right limit enough) made
    rw [ofTags_append madeLarger closed] at larger
    obtain ⟨moved, madeMoved, rfl⟩ := map_eq_ok_iff.mp larger
    obtain ⟨movedNested, -, movedFlat⟩ := of_ofTags madeMoved
    obtain ⟨-, bound, -⟩ := of_ofTags joined
    rw [height_append] at bound
    have back : (moved.moveBack distance).flatten = later := by
      rw [flatten_moveBack, movedFlat, Tag.map_moveBack_map_shift]
    have backNested := (wellNested_moveBack distance).mpr movedNested
    refine ⟨ofTags_eq_ok_iff.mpr ⟨nested, by omega, flat⟩, moved.moveBack distance,
      ofTags_eq_ok_iff.mpr ⟨backNested, ?_, back⟩, ?_⟩
    · rw [height_moveBack]
      omega
    · exact congrArg (first ++ ·) (movedNested.eq_of_flatten_eq (wellNested_shift.mpr backNested)
        (by rw [flatten_shift, back, movedFlat]))
  · rintro ⟨fits, second, madeSecond, rfl⟩
    obtain ⟨secondNested, secondBound, rfl⟩ := of_ofTags madeSecond
    rw [ofTags_append fits closed]
    refine map_eq_ok_iff.mpr ⟨second.shift distance, ofTags_eq_ok_iff.mpr ⟨?_, ?_, ?_⟩, rfl⟩
    · exact wellNested_shift.mpr secondNested
    · rwa [height_shift]
    · exact flatten_shift

/-- An opening delimiter lies in a closed verbatim block of the right forest, or of none. -/
private theorem covered_append_shift_iff {delimiters : Delimiters} {left : Text}
    (flat : first.flatten = (Pairing.ofText delimiters left).tags) (second : Forest)
    (opening : Occurrence) :
    (∃ span ∈ (first ++ second.shift left.size).verbatimSpans,
        span.contains (opening.shift left.size).position = true) ↔
      ∃ span ∈ second.verbatimSpans, span.contains opening.position = true := by
  have moved : second.verbatimSpans =
      (second.shift left.size).verbatimSpans.map (Span.moveBack left.size) := by
    rw [← verbatimSpans_moveBack, moveBack_shift]
  rw [verbatimSpans_append]
  simp only [Span.contains_iff, Occurrence.position_shift]
  constructor
  · rintro ⟨span, spans, starts, stops⟩
    rcases List.mem_append.mp spans with inFirst | inSecond
    · obtain ⟨-, closer, closes, ends⟩ := exists_tags_of_mem_verbatimSpans inFirst
      have within := Pairing.stop_le_size_of_mem (flat ▸ closes)
      omega
    · refine ⟨span.moveBack left.size, moved ▸ List.mem_map_of_mem inSecond, ?_⟩
      simp only [Span.moveBack]
      omega
  · rintro ⟨span, spans, starts, stops⟩
    rw [moved] at spans
    obtain ⟨original, inSecond, rfl⟩ := List.mem_map.mp spans
    refine ⟨original, List.mem_append_right _ inSecond, ?_⟩
    simp only [Span.moveBack] at starts stops
    omega

/-- Two texts with a clean seam, the left one without open blocks, are read together exactly if each
of them is read alone. -/
theorem parse_append_eq_ok_iff (seam : CleanSeam delimiters left right)
    (made : ofTags enough (Pairing.ofText delimiters left).tags = .ok first)
    (closed : first.Closed) :
    parse delimiters mode limit (left ++ right) = .ok whole ↔
      parse delimiters mode limit left = .ok first ∧
        ∃ second, parse delimiters mode limit right = .ok second ∧
          whole = first ++ second.shift left.size := by
  have joined : ofTags limit (Pairing.ofText delimiters (left ++ right)).tags = .ok whole ↔
      ofTags limit (Pairing.ofText delimiters left).tags = .ok first ∧
        ∃ second, ofTags limit (Pairing.ofText delimiters right).tags = .ok second ∧
          whole = first ++ second.shift left.size := by
    rw [seam.ofText_append]
    exact ofTags_append_shift_eq_ok_iff made closed left.size
  cases mode with
  | lenient => simpa only [parse_lenient_eq_ok_iff] using joined
  | strict =>
      obtain ⟨-, -, flat⟩ := of_ofTags made
      simp only [parse_strict_eq_ok_iff, allFindings_eq_nil_iff, joined, seam.terminated]
      rw [seam.ofText_append]
      have clean (second : Forest) :
          (first ++ second.shift left.size).findings none false = [] ↔
            first.findings none false = [] ∧ second.findings none false = [] := by
        rw [findings_none_append, List.append_eq_nil_iff, findings_shift_eq_nil_iff]
      constructor
      · rintro ⟨⟨madeFirst, second, madeSecond, rfl⟩, faultless, covered⟩
        obtain ⟨firstClean, secondClean⟩ := (clean second).mp faultless
        refine ⟨⟨madeFirst, firstClean, fun _ none => by cases none⟩, second,
          ⟨madeSecond, secondClean, ?_⟩, rfl⟩
        intro opening member
        exact (covered_append_shift_iff flat second opening).mp
          (covered _ (List.mem_map_of_mem member))
      · rintro ⟨⟨madeFirst, firstClean, -⟩, second, ⟨madeSecond, secondClean, covered⟩, rfl⟩
        refine ⟨⟨madeFirst, second, madeSecond, rfl⟩, (clean second).mpr ⟨firstClean, secondClean⟩,
          ?_⟩
        intro opening member
        obtain ⟨original, among, rfl⟩ := List.mem_map.mp member
        exact (covered_append_shift_iff flat second original).mpr (covered original among)

end Forest

end Stencil

import Stencil.Proofs.Forest.Parts
import Stencil.Proofs.Tag.Excerpt

/-!
# Moving a forest

When a part of a text is cut out, its tags move to the left and stay otherwise what they are, and when
a text is put before it, they move to the right. Every operation on forests that does not look at
positions commutes with the moves.
-/

set_option autoImplicit false

namespace Stencil

/-- The same tag further to the left. -/
def Tag.moveBack (distance : Nat) (tag : Tag) : Tag :=
  { tag with start := tag.start - distance, stop := tag.stop - distance }

namespace Tag

variable (distance : Nat) (tag : Tag)

@[simp] theorem moveBack_shift : (tag.shift distance).moveBack distance = tag := by
  simp [moveBack, shift]

@[simp] theorem map_moveBack_map_shift (tags : List Tag) :
    (tags.map (Tag.shift distance)).map (Tag.moveBack distance) = tags := by
  rw [List.map_map]
  exact (List.map_congr_left fun tag _ => moveBack_shift distance tag).trans (List.map_id tags)

@[simp] theorem start_moveBack : (tag.moveBack distance).start = tag.start - distance := rfl

@[simp] theorem stop_moveBack : (tag.moveBack distance).stop = tag.stop - distance := rfl

@[simp] theorem isBlock_moveBack : (tag.moveBack distance).isBlock = tag.isBlock := rfl

@[simp] theorem isElse_moveBack : (tag.moveBack distance).isElse = tag.isElse := rfl

@[simp] theorem closes?_moveBack : (tag.moveBack distance).closes? = tag.closes? := rfl

end Tag

/-- The same span further to the left. -/
def Span.moveBack (distance : Nat) (span : Span) : Span :=
  ⟨span.start - distance, span.stop - distance⟩

/-- The same fault further to the left. -/
def Finding.moveBack (distance : Nat) (finding : Finding) : Finding :=
  { finding with position := finding.position - distance }

namespace Forest

/-- The same forest further to the left. -/
def moveBack (distance : Nat) : Forest → Forest
  | nil => nil
  | tag single rest => tag (single.moveBack distance) (moveBack distance rest)
  | group family opener body closer rest =>
      group family (opener.moveBack distance) (moveBack distance body)
        (closer.map (Tag.moveBack distance)) (moveBack distance rest)

variable (distance : Nat) (forest : Forest)

@[simp] theorem flatten_moveBack :
    (forest.moveBack distance).flatten = forest.flatten.map (Tag.moveBack distance) := by
  induction forest with
  | nil => rfl
  | tag single rest ih => simp [moveBack, flatten, ih]
  | group family opener body closer rest bodyIH restIH =>
      cases closer <;> simp [moveBack, flatten, bodyIH, restIH]

@[simp] theorem height_moveBack : (forest.moveBack distance).height = forest.height := by
  induction forest with
  | nil => rfl
  | tag single rest ih => exact ih
  | group family opener body closer rest bodyIH restIH =>
      simp [moveBack, height, bodyIH, restIH]

@[simp] theorem closed_moveBack : (forest.moveBack distance).Closed ↔ forest.Closed := by
  induction forest with
  | nil => rfl
  | tag single rest ih => exact ih
  | group family opener body closer rest bodyIH restIH =>
      simp [moveBack, bodyIH, restIH]

@[simp] theorem else?_moveBack :
    (forest.moveBack distance).else? = forest.else?.map (Tag.moveBack distance) := by
  induction forest with
  | nil => rfl
  | tag single rest ih =>
      simp only [moveBack, else?, Tag.isElse_moveBack, ih]
      split <;> rfl
  | group family opener body closer rest _ restIH => exact restIH

@[simp] theorem beforeElse_moveBack :
    (forest.moveBack distance).beforeElse = forest.beforeElse.moveBack distance := by
  induction forest with
  | nil => rfl
  | tag single rest ih =>
      simp only [moveBack, beforeElse, Tag.isElse_moveBack, ih]
      split <;> rfl
  | group family opener body closer rest _ restIH => simp [moveBack, beforeElse, restIH]

@[simp] theorem afterElse_moveBack :
    (forest.moveBack distance).afterElse = forest.afterElse.moveBack distance := by
  induction forest with
  | nil => rfl
  | tag single rest ih =>
      simp only [moveBack, afterElse, Tag.isElse_moveBack, ih]
      split <;> rfl
  | group family opener body closer rest _ restIH => exact restIH

@[simp] theorem verbatimSpans_moveBack :
    (forest.moveBack distance).verbatimSpans =
      forest.verbatimSpans.map (Span.moveBack distance) := by
  induction forest with
  | nil => rfl
  | tag single rest ih => exact ih
  | group family opener body closer rest bodyIH restIH =>
      cases closer with
      | none => simp [moveBack, verbatimSpans, bodyIH, restIH]
      | some closing =>
          simp only [moveBack, Option.map_some, verbatimSpans, bodyIH, restIH]
          split <;> simp [Span.moveBack]

variable {distance} {forest}

variable (distance) in
theorem wellNested_moveBack {around : Option Family} :
    (forest.moveBack distance).WellNested around ↔ forest.WellNested around := by
  induction forest generalizing around with
  | nil => rfl
  | tag single rest ih => exact and_congr_right' (and_congr_right' ih)
  | group family opener body closer rest bodyIH restIH =>
      refine and_congr_right' (and_congr bodyIH (and_congr ?_ (and_congr ?_ restIH)))
      · cases closer with
        | none => simp
        | some closing => simp [Tag.closes?_moveBack]
      · cases closer with
        | none => cases rest <;> simp [moveBack]
        | some closing => simp

/-- The faults of a forest move with it. -/
theorem findings_moveBack (parent : Option Family) (elseSeen : Bool) :
    (forest.moveBack distance).findings parent elseSeen =
      (forest.findings parent elseSeen).map (Finding.moveBack distance) := by
  induction forest generalizing parent elseSeen with
  | nil => rfl
  | tag single rest ih =>
      simp only [moveBack, findings, Tag.isBlock_moveBack, Tag.isElse_moveBack, ih]
      split
      · split
        · rfl
        · rfl
      · rfl
  | group family opener body closer rest bodyIH restIH =>
      cases closer with
      | none =>
          simp only [moveBack, Option.map_none, findings, bodyIH, restIH, List.map_cons,
            List.map_append]
          rfl
      | some closing =>
          simp only [moveBack, Option.map_some, findings, bodyIH, restIH]
          split
          · rfl
          · rw [List.map_append]

variable (distance) in
/-- A forest has faults exactly if it has some further to the left. -/
theorem findings_moveBack_eq_nil_iff {parent : Option Family} {elseSeen : Bool} :
    (forest.moveBack distance).findings parent elseSeen = [] ↔
      forest.findings parent elseSeen = [] := by
  rw [findings_moveBack, List.map_eq_nil_iff]

/-! ## To the right -/

/-- The same forest further to the right. -/
def shift (distance : Nat) : Forest → Forest
  | nil => nil
  | tag single rest => tag (single.shift distance) (shift distance rest)
  | group family opener body closer rest =>
      group family (opener.shift distance) (shift distance body)
        (closer.map (Tag.shift distance)) (shift distance rest)

@[simp] theorem moveBack_shift : (forest.shift distance).moveBack distance = forest := by
  induction forest with
  | nil => rfl
  | tag single rest ih => simp [shift, moveBack, ih]
  | group family opener body closer rest bodyIH restIH =>
      cases closer <;> simp [shift, moveBack, bodyIH, restIH]

@[simp] theorem flatten_shift :
    (forest.shift distance).flatten = forest.flatten.map (Tag.shift distance) := by
  induction forest with
  | nil => rfl
  | tag single rest ih => simp [shift, flatten, ih]
  | group family opener body closer rest bodyIH restIH =>
      cases closer <;> simp [shift, flatten, bodyIH, restIH]

@[simp] theorem height_shift : (forest.shift distance).height = forest.height := by
  rw [← height_moveBack distance, moveBack_shift]

@[simp] theorem closed_shift : (forest.shift distance).Closed ↔ forest.Closed := by
  rw [← closed_moveBack distance, moveBack_shift]

@[simp] theorem wellNested_shift {around : Option Family} :
    (forest.shift distance).WellNested around ↔ forest.WellNested around := by
  rw [← wellNested_moveBack distance, moveBack_shift]

@[simp] theorem shift_zero : forest.shift 0 = forest := by
  induction forest with
  | nil => rfl
  | tag single rest ih => rw [shift, ih, Tag.shift_zero, id]
  | group family opener body closer rest bodyIH restIH =>
      rw [shift, bodyIH, restIH, Tag.shift_zero, Option.map_id, id, id]

@[simp] theorem else?_shift :
    (forest.shift distance).else? = forest.else?.map (Tag.shift distance) := by
  induction forest with
  | nil => rfl
  | tag single rest ih =>
      have same : (single.shift distance).isElse = single.isElse := rfl
      simp only [shift, else?, same, ih]
      split <;> rfl
  | group family opener body closer rest _ restIH => exact restIH

theorem findings_shift_eq_nil_iff {parent : Option Family} {elseSeen : Bool} :
    (forest.shift distance).findings parent elseSeen = [] ↔
      forest.findings parent elseSeen = [] := by
  rw [← findings_moveBack_eq_nil_iff distance, moveBack_shift]

end Forest

end Stencil

import Stencil.Text.Order

/-!
# Dictionaries

A dictionary holds values under distinct names, in the order of the names.

The main statements are `Dictionary.get?_insert`, which says what is found after an insertion, and
`Dictionary.sorted_ofEntries`, by which every dictionary built by insertions is sorted.
-/

set_option autoImplicit false

namespace Stencil

/-- Named values in the order of their names. -/
abbrev Dictionary (α : Type) := List (Text × α)

namespace Dictionary

variable {α : Type}

def get? : Dictionary α → Text → Option α
  | [], _ => none
  | (name, value) :: rest, sought => if sought = name then some value else get? rest sought

def names (dictionary : Dictionary α) : List Text := dictionary.map Prod.fst

def values (dictionary : Dictionary α) : List α := dictionary.map Prod.snd

/-- Puts a value under a name and replaces the one that was there. -/
def insert (dictionary : Dictionary α) (name : Text) (value : α) : Dictionary α :=
  match dictionary with
  | [] => [(name, value)]
  | (other, held) :: rest =>
      if name = other then (name, value) :: rest
      else if Text.before name other then (name, value) :: (other, held) :: rest
      else (other, held) :: insert rest name value

/-- The dictionary of a list of entries, of which a later one replaces an earlier one. -/
def ofEntries (entries : List (Text × α)) : Dictionary α :=
  entries.foldl (fun dictionary (name, value) => dictionary.insert name value) []

/-- Every name comes before those after it. -/
def Sorted (dictionary : Dictionary α) : Prop :=
  dictionary.names.Pairwise fun first second => Text.before first second = true

/-- After an insertion the new name has the new value and every other name keeps its own. -/
theorem get?_insert (dictionary : Dictionary α) (name sought : Text) (value : α) :
    get? (insert dictionary name value) sought =
      if sought = name then some value else get? dictionary sought := by
  induction dictionary with
  | nil => simp [insert, get?]
  | cons entry rest ih =>
      obtain ⟨other, held⟩ := entry
      simp only [insert]
      by_cases taken : name = other
      · subst taken
        by_cases same : sought = name <;> simp [get?, same]
      · rw [if_neg taken]
        split
        · simp [get?]
        · by_cases same : sought = other
          · have kept : sought ≠ name := fun equal => taken (equal.symm.trans same)
            simp [get?, same, same ▸ kept]
          · simp [get?, same, ih]

theorem mem_names_insert {dictionary : Dictionary α} {name sought : Text} {value : α}
    (member : sought ∈ names (insert dictionary name value)) :
    sought = name ∨ sought ∈ names dictionary := by
  induction dictionary with
  | nil => simpa [insert, names] using member
  | cons entry rest ih =>
      obtain ⟨other, held⟩ := entry
      simp only [insert] at member
      simp only [names] at ih member ⊢
      split at member
      · simp_all
      · split at member
        · simp_all
        · rcases List.mem_cons.mp member with same | later
          · exact .inr (by simp_all)
          · rcases ih later with same | earlier
            · exact .inl same
            · exact .inr (List.mem_cons_of_mem _ earlier)

/-- Insertion keeps the names in order. -/
theorem Sorted.insert {dictionary : Dictionary α} (sorted : Sorted dictionary)
    (name : Text) (value : α) : Sorted (insert dictionary name value) := by
  induction dictionary with
  | nil => simp [Sorted, names, Dictionary.insert]
  | cons entry rest ih =>
      obtain ⟨other, held⟩ := entry
      obtain ⟨least, tail⟩ := List.pairwise_cons.mp sorted
      simp only [Dictionary.insert]
      split
      · next same => subst same; exact List.pairwise_cons.mpr ⟨least, tail⟩
      · next different =>
          split
          · next before =>
              refine List.pairwise_cons.mpr ⟨fun later member => ?_, sorted⟩
              rcases List.mem_cons.mp member with rfl | member
              · exact before
              · exact Text.before_trans before (least later member)
          · next notBefore =>
              refine List.pairwise_cons.mpr ⟨fun later member => ?_, ih tail⟩
              rcases mem_names_insert member with rfl | member
              · exact (Text.before_or_before different).resolve_left notBefore
              · exact least later member

/-- The dictionary of any list of entries has its names in order. -/
theorem sorted_ofEntries (entries : List (Text × α)) : Sorted (ofEntries entries) := by
  have sorted_foldl (dictionary : Dictionary α) (sorted : Sorted dictionary) :
      Sorted (entries.foldl (fun dictionary (name, value) => dictionary.insert name value)
        dictionary) := by
    induction entries generalizing dictionary with
    | nil => exact sorted
    | cons entry entries ih => exact ih _ (sorted.insert entry.1 entry.2)
  exact sorted_foldl [] List.Pairwise.nil

end Dictionary

end Stencil

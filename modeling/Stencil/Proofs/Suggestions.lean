import Mathlib.Data.List.Basic
import Stencil.Proofs.Text.Edits
import Stencil.Suggestion

/-!
# Which names are suggested

The table of distances ends with the least number of edits between two texts. The names within the bound are
sorted by it, and stay in the given order where it is the same. The bound counts the bytes of the mistyped
name: a name of at most three characters that has more than three bytes is searched as a long one.
-/

set_option autoImplicit false

namespace Stencil

open Text

/-! ## The table of distances -/

/-- The least numbers of edits to the initial parts of a target that are longer than `passed`. Texts are read
from their ends here, since the table goes on at the ends. -/
def distancesFrom (reversed passed : Text) : (target : Text) → List Nat
  | [] => []
  | head :: rest =>
      leastEdits reversed (head :: passed) :: distancesFrom reversed (head :: passed) rest

theorem distancesFrom_nil (passed target : Text) :
    distancesFrom [] passed target = List.range' (passed.length + 1) target.length := by
  induction target generalizing passed with
  | nil => rfl
  | cons head rest ih =>
      rw [distancesFrom, ih, leastEdits_nil_left, List.length_cons, List.length_cons, List.range'_succ]

theorem distanceRow_distancesFrom (character : Char) (reversed passed target : Text) :
    distanceRow character target (leastEdits reversed passed)
        (leastEdits (character :: reversed) passed) (distancesFrom reversed passed target) =
      distancesFrom (character :: reversed) passed target := by
  induction target generalizing passed with
  | nil => rfl
  | cons head rest ih =>
      simp only [distanceRow, distancesFrom]
      rw [← leastEdits_cons_cons, ih]

theorem distanceRows_distancesFrom (target text reversed : Text) :
    distanceRows target text reversed.length (distancesFrom reversed [] target) =
      ((text.reverse ++ reversed).length, distancesFrom (text.reverse ++ reversed) [] target) := by
  induction text generalizing reversed with
  | nil => rfl
  | cons head rest ih =>
      have row := distanceRow_distancesFrom head reversed [] target
      simp only [leastEdits_nil_right, List.length_cons] at row
      have later := ih (head :: reversed)
      rw [List.length_cons] at later
      rw [distanceRows, row, later, List.reverse_cons, List.append_assoc, List.singleton_append]

theorem getLast?_distancesFrom (reversed passed target : Text) :
    (distancesFrom reversed passed target).getLast?.getD (leastEdits reversed passed) =
      leastEdits reversed (target.reverse ++ passed) := by
  induction target generalizing passed with
  | nil => rfl
  | cons head rest ih =>
      rw [distancesFrom, List.getLast?_cons, Option.getD_some, ih, List.reverse_cons,
        List.append_assoc, List.singleton_append]

theorem editDistance_eq (text target : Text) :
    editDistance text target = leastEdits text.reverse target.reverse := by
  have rows := distanceRows_distancesFrom target text []
  have last := getLast?_distancesFrom text.reverse [] target
  rw [distancesFrom_nil, List.length_nil, Nat.zero_add, List.append_nil] at rows
  rw [leastEdits_nil_right, List.append_nil] at last
  rw [editDistance, rows]
  exact last

/-- The distance of two texts is the least number of edits from one to the other. -/
theorem isLeast_editDistance (text target : Text) :
    IsLeast {count | Edits count text target} (editDistance text target) := by
  have least := isLeast_leastEdits text.reverse target.reverse
  simpa only [editDistance_eq, Edits.reverse_iff] using least

/-! ## Sorting by a key -/

section

variable {α : Type} {key : α → Nat}

private theorem transitive_key (one two three : α) :
    decide (key one ≤ key two) = true → decide (key two ≤ key three) = true →
      decide (key one ≤ key three) = true := by
  simpa using Nat.le_trans

private theorem total_key (one two : α) :
    (decide (key one ≤ key two) || decide (key two ≤ key one)) = true := by
  simpa using Nat.le_total (key one) (key two)

theorem pairwise_mergeSort_key (list : List α) :
    (list.mergeSort fun earlier later => key earlier ≤ key later).Pairwise
      fun earlier later => key earlier ≤ key later :=
  (List.pairwise_mergeSort transitive_key total_key list).imp of_decide_eq_true

/-- Sorting keeps the order of the items with one key. -/
theorem filter_mergeSort_key (list : List α) (value : Nat) :
    (list.mergeSort fun earlier later => key earlier ≤ key later).filter (key · = value) =
      list.filter (key · = value) := by
  have alike : (list.filter (key · = value)).Pairwise
      fun earlier later => decide (key earlier ≤ key later) = true := by
    refine List.pairwise_of_forall_mem_list fun earlier one later other => ?_
    simp only [List.mem_filter, decide_eq_true_eq] at one other ⊢
    omega
  have kept := (List.sublist_mergeSort transitive_key total_key alike List.filter_sublist).filter
    (key · = value)
  rw [List.filter_filter] at kept
  simp only [Bool.and_self] at kept
  exact (kept.eq_of_length ((List.mergeSort_perm list _).filter _).length_eq.symm).symm

theorem filter_filter_of_imp (list : List α) {keeps : α → Bool} {value : Nat}
    (kept : ∀ item, key item = value → keeps item = true) :
    (list.filter keeps).filter (key · = value) = list.filter (key · = value) := by
  rw [List.filter_filter]
  refine List.filter_congr fun item _ => ?_
  by_cases here : key item = value
  · simp [here, kept item here]
  · simp [here]

/-- In a sorted list the items with the least key come first. -/
theorem filter_append_filter_of_sorted {list : List α} {least : Nat}
    (sorted : list.Pairwise fun earlier later => key earlier ≤ key later)
    (bound : ∀ item ∈ list, least ≤ key item) :
    list.filter (key · = least) ++ list.filter (key · ≠ least) = list := by
  induction sorted with
  | nil => rfl
  | @cons head rest first _ ih =>
      by_cases here : key head = least
      · have later := ih fun item member => bound item (List.mem_cons_of_mem _ member)
        rw [List.filter_cons_of_pos (by simpa using here),
          List.filter_cons_of_neg (by simpa using here), List.cons_append, later]
      · -- From here on all keys are larger.
        have larger : ∀ item ∈ head :: rest, key item ≠ least := by
          have above := bound head List.mem_cons_self
          intro item member
          rcases List.mem_cons.mp member with rfl | inRest
          · exact here
          · have order := first item inRest
            omega
        rw [List.filter_eq_nil_iff.mpr (by simpa using larger),
          List.filter_eq_self.mpr (by simpa using larger), List.nil_append]

/-- A sorted list consists of the items with one key after the other. -/
theorem flatMap_filter_of_sorted {list : List α} {start count : Nat}
    (sorted : list.Pairwise fun earlier later => key earlier ≤ key later)
    (bounds : ∀ item ∈ list, start ≤ key item ∧ key item < start + count) :
    ((List.range' start count).flatMap fun value => list.filter (key · = value)) = list := by
  induction count generalizing start list with
  | zero =>
      obtain rfl : list = [] := by
        refine List.eq_nil_iff_forall_not_mem.mpr fun item member => ?_
        have bound := bounds item member
        omega
      rfl
  | succ count ih =>
      have laterBounds : ∀ item ∈ list.filter (key · ≠ start),
          start + 1 ≤ key item ∧ key item < start + 1 + count := by
        intro item member
        simp only [List.mem_filter, decide_eq_true_eq] at member
        have bound := bounds item member.1
        omega
      have others : (List.range' (start + 1) count).flatMap
            (fun value => list.filter (key · = value)) = list.filter (key · ≠ start) := by
        refine Eq.trans (List.flatMap_congr fun value member => ?_)
          (ih (sorted.filter _) laterBounds)
        have above := (List.mem_range'_1.mp member).1
        exact (filter_filter_of_imp list fun item here => decide_eq_true (by omega)).symm
      rw [List.range'_succ, List.flatMap_cons, others]
      exact filter_append_filter_of_sorted sorted fun item member => (bounds item member).1

end

/-! ## What is suggested -/

/-- At most three of the names within a bound of a distance, without those at distance zero: the nearest
first, and in the given order at one distance. -/
def nearest (distance : Text → Nat) (bound : Nat) (available : List Text) : List Text :=
  ((available.filter fun other => 1 ≤ distance other ∧ distance other ≤ bound).mergeSort
    fun earlier later => distance earlier ≤ distance later).take 3

theorem nearest_eq_take_flatMap (distance : Text → Nat) (bound : Nat) (available : List Text) :
    nearest distance bound available =
      ((List.range' 1 bound).flatMap fun value => available.filter (distance · = value)).take 3 := by
  have bounds : ∀ item ∈ (available.filter fun other =>
        1 ≤ distance other ∧ distance other ≤ bound).mergeSort
          fun earlier later => distance earlier ≤ distance later,
      1 ≤ distance item ∧ distance item < 1 + bound := by
    intro item member
    simp only [List.mem_mergeSort, List.mem_filter, decide_eq_true_eq] at member
    omega
  rw [nearest, ← flatMap_filter_of_sorted (pairwise_mergeSort_key _) bounds]
  refine congrArg (List.take 3) (List.flatMap_congr fun value member => ?_)
  have range := List.mem_range'_1.mp member
  rw [filter_mergeSort_key]
  exact filter_filter_of_imp available fun other here => decide_eq_true (by omega)

theorem suggestions_eq_nearest (name : Text) (available : List Text) :
    suggestions name available =
      nearest (editDistance name) (if name.size ≤ 3 then 1 else 2) available := by
  rw [nearest_eq_take_flatMap]
  rfl

theorem nearest_two (distance : Text → Nat) (available : List Text) :
    nearest distance 2 available =
      (nearest distance 1 available ++ available.filter (distance · = 2)).take 3 := by
  rw [nearest_eq_take_flatMap, nearest_eq_take_flatMap]
  simp only [List.range'_succ, List.range'_zero, List.flatMap_cons, List.flatMap_nil, List.append_nil]
  rw [List.take_append, List.take_append, List.take_take, Nat.min_self, List.length_take]
  congr 2
  omega

/-- Every text has at least as many bytes as characters. -/
theorem Text.length_le_size (text : Text) : text.length ≤ text.size := by
  induction text with
  | nil => exact Nat.le_refl 0
  | cons head rest ih =>
      have positive := head.utf8Size_pos
      rw [List.length_cons, Text.size_cons]
      omega

/-- The suggestions are the nearest names for every distance that counts the least edits. The bound is one for
a name of at most three characters, unless these have more than three bytes: then names at distance two
follow the others. -/
theorem suggestions_nearest {name : Text} {distance : Text → Nat}
    (least : ∀ other, IsLeast {count | Edits count name other} (distance other))
    (available : List Text) :
    suggestions name available =
        nearest distance (if name.size ≤ 3 then 1 else 2) available ∧
      (name.size ≤ 3 ∨ 3 < name.length →
        suggestions name available =
          nearest distance (if name.length ≤ 3 then 1 else 2) available) ∧
      (name.length ≤ 3 ∧ 3 < name.size →
        suggestions name available =
          (nearest distance 1 available ++ available.filter (distance · = 2)).take 3) := by
  obtain rfl : distance = editDistance name :=
    funext fun other => (least other).unique (isLeast_editDistance name other)
  have rule := suggestions_eq_nearest name available
  have order := name.length_le_size
  refine ⟨rule, fun agrees => ?_, fun ⟨few, many⟩ => ?_⟩
  · rw [rule]
    congr 1
    split <;> split <;> omega
  · rw [rule, if_neg (Nat.not_le_of_lt many), nearest_two]

/-- The name has two characters and four bytes. -/
theorem suggestions_nearest_accents :
    (∀ other, IsLeast {count | Edits count ['é', 'é'] other} (editDistance ['é', 'é'] other)) ∧
      suggestions ['é', 'é'] [['a', 'b'], ['é'], ['é', 'é'], ['e', 'é']] =
        (nearest (editDistance ['é', 'é']) 1 [['a', 'b'], ['é'], ['é', 'é'], ['e', 'é']] ++
          [['a', 'b']]).take 3 ∧
      suggestions ['é', 'é'] [['a', 'b'], ['é'], ['é', 'é'], ['e', 'é']] =
        [['é'], ['e', 'é'], ['a', 'b']] :=
  ⟨isLeast_editDistance ['é', 'é'],
    (suggestions_nearest (isLeast_editDistance ['é', 'é']) _).2.2 (by decide), by decide⟩

/-- For a name of two characters a name at distance two is suggested. -/
theorem suggestions_past_one_edit :
    suggestions ['é', 'é'] [['a', 'b']] ≠
      nearest (editDistance ['é', 'é']) (if ['é', 'é'].length ≤ 3 then 1 else 2) [['a', 'b']] := by
  rw [nearest_eq_take_flatMap]
  decide

end Stencil

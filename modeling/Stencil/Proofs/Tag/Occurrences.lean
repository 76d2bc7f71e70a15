import Stencil.Proofs.Text.Cuts
import Stencil.Tag.Occurrence

/-!
# Scanning a text in parts

The occurrences of delimiters lie in their text, in order and without overlaps. Where none of them
crosses a cut, the scan of the whole text is the scan of the left part followed by the scan of the
right part.
-/

set_option autoImplicit false

namespace Stencil

/-- The same delimiter further to the right. -/
def Occurrence.shift (distance : Nat) (occurrence : Occurrence) : Occurrence :=
  { occurrence with position := occurrence.position + distance }

@[simp] theorem Occurrence.position_shift (distance : Nat) (occurrence : Occurrence) :
    (occurrence.shift distance).position = occurrence.position + distance := rfl

@[simp] theorem Occurrence.lexeme_shift (distance : Nat) (occurrence : Occurrence) :
    (occurrence.shift distance).lexeme = occurrence.lexeme := rfl

@[simp] theorem Occurrence.stop_shift (distance : Nat) (occurrence : Occurrence) :
    (occurrence.shift distance).stop = occurrence.stop + distance := by
  simp only [stop, position_shift, lexeme_shift]
  omega

theorem Occurrence.position_le_stop (occurrence : Occurrence) :
    occurrence.position ≤ occurrence.stop := Nat.le_add_right _ _

section

variable {first second : Text}

/-- The delimiter that a text starts with. -/
def leading? (first second text : Text) : Option Text :=
  if first.isPrefixOf text then some first
  else if second.isPrefixOf text then some second
  else none

theorem occurrencesFrom_zero_cons (position : Nat) (head : Char) (rest : Text) :
    occurrencesFrom first second position 0 (head :: rest) =
      match leading? first second (head :: rest) with
      | some lexeme =>
          ⟨position, lexeme⟩ ::
            occurrencesFrom first second (position + head.utf8Size) (lexeme.length - 1) rest
      | none => occurrencesFrom first second (position + head.utf8Size) 0 rest := by
  simp only [occurrencesFrom, leading?]
  split
  · rfl
  · split <;> rfl

theorem leading?_eq_some {text lexeme : Text} (found : leading? first second text = some lexeme) :
    (lexeme = first ∨ lexeme = second) ∧ ∃ rest, text = lexeme ++ rest := by
  simp only [leading?] at found
  split at found
  · next here =>
      cases found
      obtain ⟨rest, same⟩ := List.isPrefixOf_iff_prefix.mp here
      exact ⟨.inl rfl, rest, same.symm⟩
  · split at found
    · next here =>
        cases found
        obtain ⟨rest, same⟩ := List.isPrefixOf_iff_prefix.mp here
        exact ⟨.inr rfl, rest, same.symm⟩
    · cases found

private theorem isPrefixOf_append_left {literal left right : Text}
    (bound : literal.size ≤ left.size) :
    literal.isPrefixOf (left ++ right) = literal.isPrefixOf left := by
  rw [Bool.eq_iff_iff, List.isPrefixOf_iff_prefix, List.isPrefixOf_iff_prefix]
  constructor
  · rintro ⟨rest, same⟩
    obtain ⟨middle, whole, -⟩ := Text.exists_append_of_size_le same bound
    exact ⟨middle, whole.symm⟩
  · exact fun here => here.trans (List.prefix_append left right)

private theorem isPrefixOf_of_isPrefixOf_left {literal left : Text} (right : Text)
    (here : literal.isPrefixOf left = true) : literal.isPrefixOf (left ++ right) = true := by
  rw [List.isPrefixOf_iff_prefix] at here ⊢
  exact here.trans (List.prefix_append left right)

/-- A delimiter that ends before a cut is found without what follows the cut. -/
private theorem leading?_append_of_some {left right lexeme : Text}
    (found : leading? first second (left ++ right) = some lexeme)
    (bound : lexeme.size ≤ left.size) : leading? first second left = some lexeme := by
  simp only [leading?] at found ⊢
  split at found
  · next here =>
      cases found
      rw [if_pos (isPrefixOf_append_left bound ▸ here)]
  · next absent =>
      split at found
      · next here =>
          cases found
          rw [if_neg fun inside => absent (isPrefixOf_of_isPrefixOf_left right inside),
            if_pos (isPrefixOf_append_left bound ▸ here)]
      · cases found

private theorem leading?_append_of_none {left right : Text}
    (absent : leading? first second (left ++ right) = none) :
    leading? first second left = none := by
  simp only [leading?] at absent ⊢
  split at absent
  · cases absent
  · next firstAbsent =>
      split at absent
      · cases absent
      · next secondAbsent =>
          rw [if_neg fun inside => firstAbsent (isPrefixOf_of_isPrefixOf_left right inside),
            if_neg fun inside => secondAbsent (isPrefixOf_of_isPrefixOf_left right inside)]

theorem occurrencesFrom_shift (distance position skip : Nat) (text : Text) :
    occurrencesFrom first second (position + distance) skip text =
      (occurrencesFrom first second position skip text).map (Occurrence.shift distance) := by
  induction text generalizing position skip with
  | nil => cases skip <;> rfl
  | cons head rest ih =>
      have moved : position + distance + head.utf8Size = position + head.utf8Size + distance := by
        omega
      cases skip with
      | succ skip => simp only [occurrencesFrom, moved, ih]
      | zero =>
          rw [occurrencesFrom_zero_cons, occurrencesFrom_zero_cons, moved]
          cases leading? first second (head :: rest) with
          | none => exact ih _ _
          | some lexeme =>
              simp only [List.map_cons, ih]
              rfl

/-- What is found stands in the text, after the characters that are passed over. -/
theorem exists_parts_of_mem_occurrencesFrom {position skip : Nat} {text : Text}
    {occurrence : Occurrence}
    (member : occurrence ∈ occurrencesFrom first second position skip text) :
    (occurrence.lexeme = first ∨ occurrence.lexeme = second) ∧
      ∃ before after, text = before ++ (occurrence.lexeme ++ after) ∧
        position + Text.size before = occurrence.position ∧ skip ≤ before.length := by
  induction text generalizing position skip with
  | nil => cases skip <;> simp [occurrencesFrom] at member
  | cons head rest ih =>
      have later {skip : Nat}
          (inRest : occurrence ∈
            occurrencesFrom first second (position + head.utf8Size) skip rest) :
          (occurrence.lexeme = first ∨ occurrence.lexeme = second) ∧
            ∃ before after, head :: rest = before ++ (occurrence.lexeme ++ after) ∧
              position + Text.size before = occurrence.position ∧ skip + 1 ≤ before.length := by
        obtain ⟨kinds, before, after, rfl, start, length⟩ := ih inRest
        refine ⟨kinds, head :: before, after, rfl, ?_, Nat.succ_le_succ length⟩
        rw [← start, Text.size_cons]
        omega
      cases skip with
      | succ skip => exact later (by simpa only [occurrencesFrom] using member)
      | zero =>
          rw [occurrencesFrom_zero_cons] at member
          cases found : leading? first second (head :: rest) with
          | none =>
              rw [found] at member
              obtain ⟨kinds, before, after, same, start, -⟩ := later member
              exact ⟨kinds, before, after, same, start, Nat.zero_le _⟩
          | some lexeme =>
              rw [found] at member
              rcases List.mem_cons.mp member with rfl | inRest
              · obtain ⟨kinds, after, same⟩ := leading?_eq_some found
                exact ⟨kinds, [], after, same, by simp, Nat.zero_le _⟩
              · obtain ⟨kinds, before, after, same, start, -⟩ := later inRest
                exact ⟨kinds, before, after, same, start, Nat.zero_le _⟩

private theorem size_le_of_length_le {literal rest before after : Text}
    (same : literal ++ rest = before ++ after) (longer : literal.length ≤ before.length) :
    literal.size ≤ before.size := by
  have start : literal <+: before :=
    List.prefix_of_prefix_length_le ⟨rest, same⟩ ⟨after, rfl⟩ longer
  obtain ⟨middle, rfl⟩ := start
  simp

/-- Occurrences come in order and do not overlap. -/
theorem pairwise_occurrencesFrom (first second : Text) (position skip : Nat) (text : Text) :
    (occurrencesFrom first second position skip text).Pairwise
      fun earlier later => earlier.stop ≤ later.position := by
  induction text generalizing position skip with
  | nil => cases skip <;> exact .nil
  | cons head rest ih =>
      cases skip with
      | succ skip => exact ih _ _
      | zero =>
          rw [occurrencesFrom_zero_cons]
          cases found : leading? first second (head :: rest) with
          | none => exact ih _ _
          | some lexeme =>
              refine List.pairwise_cons.mpr ⟨?_, ih _ _⟩
              intro later member
              obtain ⟨-, remainder, whole⟩ := leading?_eq_some found
              obtain ⟨-, before, after, same, start, length⟩ :=
                exists_parts_of_mem_occurrencesFrom member
              -- The characters passed over and the head together are at least the delimiter.
              have longer : lexeme.size ≤ Text.size (head :: before) := by
                refine size_le_of_length_le (whole.symm.trans (congrArg (head :: ·) same)) ?_
                rw [List.length_cons]
                omega
              rw [Text.size_cons] at longer
              simp only [Occurrence.stop]
              omega

private theorem occurrencesFrom_append {left right : Text} {position skip : Nat}
    (short : skip ≤ left.length)
    (inside : ∀ occurrence ∈ occurrencesFrom first second position skip (left ++ right),
      occurrence.position < position + left.size → occurrence.stop ≤ position + left.size) :
    occurrencesFrom first second position skip (left ++ right) =
      occurrencesFrom first second position skip left ++
        occurrencesFrom first second (position + left.size) 0 right := by
  induction left generalizing position skip with
  | nil =>
      obtain rfl : skip = 0 := Nat.le_zero.mp short
      rfl
  | cons head tail ih =>
      have further : position + Text.size (head :: tail) =
          position + head.utf8Size + Text.size tail := by
        rw [Text.size_cons]
        omega
      rw [further] at inside ⊢
      cases skip with
      | succ skip =>
          rw [List.length_cons] at short
          exact ih (by omega) inside
      | zero =>
          rw [List.cons_append] at inside ⊢
          rw [occurrencesFrom_zero_cons] at inside
          rw [occurrencesFrom_zero_cons, occurrencesFrom_zero_cons]
          cases found : leading? first second (head :: (tail ++ right)) with
          | none =>
              have absent : leading? first second (head :: tail) = none :=
                leading?_append_of_none found
              rw [found] at inside
              rw [absent]
              exact ih (Nat.zero_le _) inside
          | some lexeme =>
              rw [found] at inside
              have ends : position + lexeme.size ≤ position + head.utf8Size + Text.size tail :=
                inside _ List.mem_cons_self (by have := head.utf8Size_pos; dsimp only; omega)
              have bound : lexeme.size ≤ Text.size (head :: tail) := by
                rw [Text.size_cons]
                omega
              have here : leading? first second (head :: tail) = some lexeme :=
                leading?_append_of_some found bound
              have short : lexeme.length - 1 ≤ tail.length := by
                obtain ⟨-, rest, same⟩ := leading?_eq_some here
                have lengths := congrArg List.length same
                simp only [List.length_cons, List.length_append] at lengths
                omega
              rw [here]
              simp only [List.cons_append, List.cons.injEq, true_and]
              exact ih short fun occurrence member =>
                inside occurrence (List.mem_cons_of_mem _ member)

theorem exists_parts_of_mem_occurrences {text : Text} {occurrence : Occurrence}
    (member : occurrence ∈ occurrences first second text) :
    (occurrence.lexeme = first ∨ occurrence.lexeme = second) ∧
      ∃ before after, text = before ++ (occurrence.lexeme ++ after) ∧
        before.size = occurrence.position := by
  obtain ⟨kinds, before, after, same, start, -⟩ := exists_parts_of_mem_occurrencesFrom member
  exact ⟨kinds, before, after, same, by omega⟩

theorem pairwise_occurrences (first second text : Text) :
    (occurrences first second text).Pairwise
      fun earlier later => earlier.stop ≤ later.position :=
  pairwise_occurrencesFrom first second 0 0 text

/-! ## Cuts that no occurrence crosses -/

/-- No occurrence starts before the cut and ends after it. -/
def Uncrossed (first second left right : Text) : Prop :=
  ∀ occurrence ∈ occurrences first second (left ++ right),
    occurrence.position < left.size → occurrence.stop ≤ left.size

theorem Uncrossed.occurrences_append {left right : Text}
    (uncrossed : Uncrossed first second left right) :
    occurrences first second (left ++ right) =
      occurrences first second left ++
        (occurrences first second right).map (Occurrence.shift left.size) := by
  have halves := occurrencesFrom_append (Nat.zero_le left.length)
    (fun occurrence member => by rw [Nat.zero_add]; exact uncrossed occurrence member)
  rw [occurrences, halves, occurrences, occurrences, occurrencesFrom_shift]

theorem eq_or_related_of_pairwise {α : Type} {related : α → α → Prop} {list : List α}
    (pairwise : list.Pairwise related) {one other : α} (oneMember : one ∈ list)
    (otherMember : other ∈ list) : one = other ∨ related one other ∨ related other one := by
  induction pairwise with
  | nil => cases oneMember
  | cons beginning _ ih =>
      rcases List.mem_cons.mp oneMember with rfl | oneLater
      · rcases List.mem_cons.mp otherMember with rfl | otherLater
        · exact .inl rfl
        · exact .inr (.inl (beginning _ otherLater))
      · rcases List.mem_cons.mp otherMember with rfl | otherLater
        · exact .inr (.inr (beginning _ oneLater))
        · exact ih oneLater otherLater

/-- An occurrence at one of whose ends a text is cut keeps the others from crossing the cut. -/
theorem uncrossed_of_mem {left right : Text} {edge : Occurrence}
    (member : edge ∈ occurrences first second (left ++ right))
    (aligned : edge.position = left.size ∨ edge.stop = left.size) :
    Uncrossed first second left right := by
  intro occurrence found before
  have edgeOrder := edge.position_le_stop
  rcases eq_or_related_of_pairwise (pairwise_occurrences _ _ _) found member with
    rfl | earlier | later
  · omega
  · omega
  · omega

private theorem exists_halves_of_crossing {left right : Text} {occurrence : Occurrence}
    (found : occurrence ∈ occurrences first second (left ++ right))
    (before : occurrence.position < left.size) (after : left.size < occurrence.stop) :
    ∃ beginning ending start rest : Text, left = start ++ beginning ∧ right = ending ++ rest ∧
      occurrence.lexeme = beginning ++ ending ∧ beginning ≠ [] ∧ ending ≠ [] := by
  obtain ⟨-, start, rest, same, position⟩ := exists_parts_of_mem_occurrences found
  obtain ⟨beginning, rfl, remainder⟩ :=
    Text.exists_append_of_size_le same.symm (by omega)
  simp only [Occurrence.stop, Text.size_append] at before after
  obtain ⟨ending, whole, rfl⟩ := Text.exists_append_of_size_le remainder.symm (by omega)
  refine ⟨beginning, ending, start, rest, rfl, rfl, whole, ?_, ?_⟩
  · rintro rfl
    rw [Text.size_nil] at before
    omega
  · rintro rfl
    rw [whole, List.append_nil] at after
    omega

/-- The last character before a crossed cut belongs to a delimiter, and does not end it. -/
theorem uncrossed_of_last {left right : Text}
    (outside : ∀ last, left.getLast? = some last → last ∉ first.dropLast ∧ last ∉ second.dropLast) :
    Uncrossed first second left right := by
  intro occurrence found before
  by_cases fits : occurrence.stop ≤ left.size
  · exact fits
  exfalso
  obtain ⟨beginning, ending, start, rest, rfl, rfl, whole, nonempty, continues⟩ :=
    exists_halves_of_crossing found before (by omega)
  obtain ⟨shorter, last, rfl⟩ := List.eq_nil_or_concat beginning |>.resolve_left nonempty
  have member : last ∈ occurrence.lexeme.dropLast := by
    rw [whole, List.dropLast_append_of_ne_nil continues]
    simp
  obtain ⟨notFirst, notSecond⟩ := outside last (by simp)
  rcases (exists_parts_of_mem_occurrences found).1 with same | same
  · exact notFirst (same ▸ member)
  · exact notSecond (same ▸ member)

theorem uncrossed_of_last_notMem {left right : Text} {last : Char}
    (ends : left.getLast? = some last) (notFirst : last ∉ first) (notSecond : last ∉ second) :
    Uncrossed first second left right := by
  apply uncrossed_of_last
  intro other same
  obtain rfl : last = other := Option.some.inj (ends.symm.trans same)
  exact ⟨fun member => notFirst (List.dropLast_subset _ member),
    fun member => notSecond (List.dropLast_subset _ member)⟩

/-- The first character after a crossed cut belongs to a delimiter. -/
theorem uncrossed_of_head {left right : Text}
    (outside : ∀ head, right.head? = some head → head ∉ first ∧ head ∉ second) :
    Uncrossed first second left right := by
  intro occurrence found before
  by_cases fits : occurrence.stop ≤ left.size
  · exact fits
  exfalso
  obtain ⟨beginning, ending, start, rest, rfl, rfl, whole, -, nonempty⟩ :=
    exists_halves_of_crossing found before (by omega)
  obtain ⟨head, further, rfl⟩ := List.exists_cons_of_ne_nil nonempty
  have member : head ∈ occurrence.lexeme := by simp [whole]
  obtain ⟨notFirst, notSecond⟩ := outside head rfl
  rcases (exists_parts_of_mem_occurrences found).1 with same | same
  · exact notFirst (same ▸ member)
  · exact notSecond (same ▸ member)

theorem uncrossed_of_head_notMem {left right : Text} {head : Char}
    (starts : right.head? = some head) (notFirst : head ∉ first) (notSecond : head ∉ second) :
    Uncrossed first second left right := by
  apply uncrossed_of_head
  intro other same
  obtain rfl : head = other := Option.some.inj (starts.symm.trans same)
  exact ⟨notFirst, notSecond⟩

/-! ## Delimiters at a cut -/

section

variable (firstNonempty : first ≠ []) (secondNonempty : second ≠ [])

include firstNonempty secondNonempty

theorem leading?_nil : leading? first second [] = none := by
  simp only [leading?, List.isPrefixOf_iff_prefix, List.prefix_nil]
  rw [if_neg firstNonempty, if_neg secondNonempty]

/-- At the start of a text a delimiter is found exactly if it is the one that the text starts with. -/
theorem mem_occurrences_zero_iff {text lexeme : Text} :
    ⟨0, lexeme⟩ ∈ occurrences first second text ↔ leading? first second text = some lexeme := by
  have later {head : Char} {rest : Text} {skip : Nat} :
      ⟨0, lexeme⟩ ∉ occurrencesFrom first second (0 + head.utf8Size) skip rest := by
    intro member
    obtain ⟨-, before, after, -, start, -⟩ := exists_parts_of_mem_occurrencesFrom member
    have positive := head.utf8Size_pos
    dsimp only at start
    omega
  cases text with
  | nil => simp [occurrences, occurrencesFrom, leading?_nil firstNonempty secondNonempty]
  | cons head rest =>
      rw [occurrences, occurrencesFrom_zero_cons]
      cases leading? first second (head :: rest) with
      | none => exact iff_of_false later (by simp)
      | some found =>
          simp only [List.mem_cons, later, or_false, Occurrence.mk.injEq, true_and, Option.some.injEq]
          exact eq_comm

/-- At a cut a delimiter is found exactly if no other one crosses the cut and the delimiter is the one
that the right part starts with. -/
theorem mem_occurrences_append_iff {left right lexeme : Text} :
    ⟨left.size, lexeme⟩ ∈ occurrences first second (left ++ right) ↔
      Uncrossed first second left right ∧ leading? first second right = some lexeme := by
  have moved : Occurrence.shift left.size ⟨0, lexeme⟩ = ⟨left.size, lexeme⟩ := by
    simp [Occurrence.shift]
  constructor
  · intro member
    have uncrossed := uncrossed_of_mem member (.inl rfl)
    refine ⟨uncrossed, (mem_occurrences_zero_iff firstNonempty secondNonempty).mp ?_⟩
    rw [uncrossed.occurrences_append] at member
    rcases List.mem_append.mp member with inLeft | inRight
    · obtain ⟨kinds, before, after, whole, position⟩ := exists_parts_of_mem_occurrences inLeft
      have nonempty : lexeme ≠ [] := by
        rcases kinds with rfl | rfl
        · exact firstNonempty
        · exact secondNonempty
      have positive : lexeme.size ≠ 0 := fun zero => nonempty (Text.size_eq_zero_iff.mp zero)
      have sizes := congrArg Text.size whole
      simp only [Text.size_append] at sizes position
      omega
    · obtain ⟨⟨position, found⟩, among, same⟩ := List.mem_map.mp inRight
      simp only [Occurrence.shift, Occurrence.mk.injEq, Nat.add_eq_right] at same
      obtain ⟨rfl, rfl⟩ := same
      exact among
  · rintro ⟨uncrossed, starts⟩
    rw [uncrossed.occurrences_append, ← moved]
    exact List.mem_append_right _ (List.mem_map_of_mem
      ((mem_occurrences_zero_iff firstNonempty secondNonempty).mpr starts))

end

end

end Stencil

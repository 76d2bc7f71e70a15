import Mathlib.Data.List.Sort
import Mathlib.Logic.Relation
import Stencil.Proofs.Tag.Excerpt

/-!
# The search for delimiters

A search takes the delimiter that the rest of the text starts with, or else passes over one character. Each
step leaves less of the text, so the search ends. What it has found then are the leftmost occurrences: no
other list is in order and without overlaps, prefers the delimiter of variable tags, and leaves out an
occurrence only inside of a listed one.
-/

set_option autoImplicit false

namespace Stencil

/-- A literal stands in a text at a byte position. -/
def Text.OccursAt (literal text : Text) (position : Nat) : Prop :=
  ∃ before after, text = before ++ (literal ++ after) ∧ before.size = position

/-- The occurrences of two delimiters from left to right. What is not listed stands inside of a listed
occurrence and does not start it. -/
structure LeftmostOccurrences (first second text : Text) (found : List Occurrence) : Prop where
  increasing : found.Pairwise fun earlier later => earlier.position < later.position
  apart : found.Pairwise fun earlier later => earlier.stop ≤ later.position
  chosen : ∀ occurrence ∈ found,
    first.OccursAt text occurrence.position ∧ occurrence.lexeme = first ∨
      ¬ first.OccursAt text occurrence.position ∧ second.OccursAt text occurrence.position ∧
        occurrence.lexeme = second
  complete : ∀ position, first.OccursAt text position ∨ second.OccursAt text position →
    ∃ occurrence ∈ found, occurrence.position = position ∨
      occurrence.position < position ∧ position < occurrence.stop

/-- A search on its way: what it has found, and the rest of the text. -/
structure Search where
  found : List Occurrence
  rest : Text

/-- The next step of a search in `text`. There is none at the end of the text. -/
def Search.next? (first second text : Text) (search : Search) : Option Search :=
  if search.rest = [] then none
  else
    match leading? first second search.rest with
    | some lexeme =>
        some ⟨search.found ++ [⟨text.size - search.rest.size, lexeme⟩],
          search.rest.drop lexeme.length⟩
    | none => some ⟨search.found, search.rest.tail⟩

def Search.Step (first second text : Text) (search next : Search) : Prop :=
  search.next? first second text = some next

section

variable {first second : Text}

/-! ## The leftmost list -/

theorem occursAt_append_iff {literal before rest : Text} :
    literal.OccursAt (before ++ rest) before.size ↔ literal <+: rest := by
  constructor
  · rintro ⟨other, after, same, size⟩
    obtain ⟨rfl, rfl⟩ := Text.append_inj_of_size_eq same size.symm
    exact List.prefix_append literal after
  · rintro ⟨after, rfl⟩
    exact ⟨before, after, rfl, rfl⟩

namespace LeftmostOccurrences

variable {text : Text} {found others : List Occurrence}

/-- The delimiter at a listed position is determined by the text. -/
theorem eq_of_position_eq (leftmost : LeftmostOccurrences first second text found)
    (alsoLeftmost : LeftmostOccurrences first second text others) {one other : Occurrence}
    (member : one ∈ found) (otherMember : other ∈ others) (same : one.position = other.position) :
    one = other := by
  have chosen := leftmost.chosen one member
  have otherChosen := alsoLeftmost.chosen other otherMember
  rw [same] at chosen
  have lexemes : one.lexeme = other.lexeme := by
    rcases chosen with ⟨here, oneFirst⟩ | ⟨notHere, -, oneSecond⟩ <;>
      rcases otherChosen with ⟨otherHere, otherFirst⟩ | ⟨otherNotHere, -, otherSecond⟩
    · rw [oneFirst, otherFirst]
    · exact absurd here otherNotHere
    · exact absurd otherHere notHere
    · rw [oneSecond, otherSecond]
  obtain ⟨position, lexeme⟩ := one
  obtain ⟨otherPosition, otherLexeme⟩ := other
  exact congrArg₂ Occurrence.mk same lexemes

theorem occurs (leftmost : LeftmostOccurrences first second text found) {occurrence : Occurrence}
    (member : occurrence ∈ found) :
    first.OccursAt text occurrence.position ∨ second.OccursAt text occurrence.position := by
  rcases leftmost.chosen occurrence member with ⟨here, -⟩ | ⟨-, here, -⟩
  · exact .inl here
  · exact .inr here

/-- What one list has the other has too, from left to right. It cannot stand inside of something further to
the left, since the first list has that as well. -/
theorem subset (leftmost : LeftmostOccurrences first second text found)
    (alsoLeftmost : LeftmostOccurrences first second text others) : found ⊆ others := by
  intro occurrence member
  induction position : occurrence.position using Nat.strongRecOn
    generalizing found others occurrence with
  | ind position ih =>
      subst position
      obtain ⟨other, otherMember, same | ⟨before, inside⟩⟩ :=
        alsoLeftmost.complete _ (leftmost.occurs member)
      · rwa [eq_of_position_eq leftmost alsoLeftmost member otherMember same.symm]
      · have listed : other ∈ found := ih _ before alsoLeftmost leftmost otherMember rfl
        have order := occurrence.position_le_stop
        rcases eq_or_related_of_pairwise leftmost.apart listed member with rfl | apart | apart <;>
          omega

theorem eq (leftmost : LeftmostOccurrences first second text found)
    (alsoLeftmost : LeftmostOccurrences first second text others) : found = others := by
  have irreflexive : Std.Irrefl fun earlier later : Occurrence => earlier.position < later.position :=
    ⟨fun _ => Nat.lt_irrefl _⟩
  have antisymmetric :
      Std.Antisymm fun earlier later : Occurrence => earlier.position < later.position :=
    ⟨fun _ _ one other => absurd one (Nat.lt_asymm other)⟩
  exact List.Subset.antisymm_of_pairwise leftmost.increasing alsoLeftmost.increasing
    (leftmost.subset alsoLeftmost) (alsoLeftmost.subset leftmost)

end LeftmostOccurrences

/-! ## The delimiter at the start of a text -/

theorem leading?_eq_some_iff {text lexeme : Text} :
    leading? first second text = some lexeme ↔
      first <+: text ∧ lexeme = first ∨
        ¬ first <+: text ∧ second <+: text ∧ lexeme = second := by
  simp only [leading?, List.isPrefixOf_iff_prefix]
  by_cases starts : first <+: text
  · simp [starts, eq_comm]
  · by_cases startsSecond : second <+: text <;> simp [starts, startsSecond, eq_comm]

theorem leading?_ne_none {literal after : Text} (kind : literal = first ∨ literal = second) :
    leading? first second (literal ++ after) ≠ none := by
  have starts : literal <+: literal ++ after := List.prefix_append literal after
  simp only [leading?, List.isPrefixOf_iff_prefix]
  rcases kind with rfl | rfl
  · simp [starts]
  · by_cases startsFirst : first <+: literal ++ after <;> simp [starts, startsFirst]

theorem occurrencesFrom_length_append (position : Nat) (lexeme after : Text) :
    occurrencesFrom first second position lexeme.length (lexeme ++ after) =
      occurrencesFrom first second (position + lexeme.size) 0 after := by
  induction lexeme generalizing position with
  | nil => rfl
  | cons head rest ih =>
      rw [List.length_cons, List.cons_append, occurrencesFrom, ih, Text.size_cons, Nat.add_assoc]

theorem occurrencesFrom_passed {position : Nat} {head : Char} {rest : Text}
    (absent : leading? first second (head :: rest) = none) :
    occurrencesFrom first second position 0 (head :: rest) =
      occurrencesFrom first second (position + head.utf8Size) 0 rest := by
  rw [occurrencesFrom_zero_cons, absent]

theorem step_passed {text : Text} {head : Char} {rest : Text}
    (absent : leading? first second (head :: rest) = none) (found : List Occurrence) :
    Search.Step first second text ⟨found, head :: rest⟩ ⟨found, rest⟩ := by
  rw [Search.Step, Search.next?, if_neg (List.cons_ne_nil head rest), absent]
  rfl

/-! ## The steps of a search -/

section

variable (firstNonempty : first ≠ []) (secondNonempty : second ≠ [])

include firstNonempty secondNonempty

theorem ne_nil_of_leading? {text lexeme : Text} (found : leading? first second text = some lexeme) :
    lexeme ≠ [] := by
  rcases (leading?_eq_some found).1 with rfl | rfl
  · exact firstNonempty
  · exact secondNonempty

/-- A text is searched by taking a delimiter or a single character off its start, again and again. -/
theorem search_induction {motive : Text → Prop} (nil : motive [])
    (found : ∀ lexeme after, leading? first second (lexeme ++ after) = some lexeme →
      motive after → motive (lexeme ++ after))
    (passed : ∀ head rest, leading? first second (head :: rest) = none →
      motive rest → motive (head :: rest))
    (text : Text) : motive text := by
  induction length : text.length using Nat.strongRecOn generalizing text with
  | ind length ih =>
      subst length
      cases here : leading? first second text with
      | some lexeme =>
          obtain ⟨-, after, rfl⟩ := leading?_eq_some here
          have positive := List.length_pos_iff.mpr
            (ne_nil_of_leading? firstNonempty secondNonempty here)
          refine found lexeme after here (ih after.length ?_ after rfl)
          rw [List.length_append]
          omega
      | none =>
          cases text with
          | nil => exact nil
          | cons head rest => exact passed head rest here (ih rest.length (Nat.lt_succ_self _) rest rfl)

theorem step_found {text before lexeme after : Text} (whole : text = before ++ (lexeme ++ after))
    (here : leading? first second (lexeme ++ after) = some lexeme) (found : List Occurrence) :
    Search.Step first second text ⟨found, lexeme ++ after⟩
      ⟨found ++ [⟨before.size, lexeme⟩], after⟩ := by
  have nonempty := ne_nil_of_leading? firstNonempty secondNonempty here
  have position : text.size - (lexeme ++ after).size = before.size := by
    rw [whole, Text.size_append]
    exact Nat.add_sub_cancel _ _
  rw [Search.Step, Search.next?, if_neg (by simp [nonempty]), here]
  simp only [position, List.drop_left]

/-- Every step leaves less of the text. -/
theorem size_rest_lt_of_step {text : Text} {search next : Search}
    (step : Search.Step first second text search next) : next.rest.size < search.rest.size := by
  obtain ⟨found, rest⟩ := search
  rw [Search.Step, Search.next?] at step
  split at step
  · cases step
  · next nonempty =>
      split at step
      · next lexeme here =>
          obtain rfl := Option.some.inj step
          obtain ⟨-, after, rfl⟩ := leading?_eq_some here
          have positive : lexeme.size ≠ 0 := fun zero =>
            ne_nil_of_leading? firstNonempty secondNonempty here (Text.size_eq_zero_iff.mp zero)
          simp only [List.drop_left, Text.size_append]
          omega
      · obtain rfl := Option.some.inj step
        obtain ⟨head, tail, rfl⟩ := List.exists_cons_of_ne_nil nonempty
        have positive := head.utf8Size_pos
        simp only [List.tail_cons, Text.size_cons]
        omega

/-! ## What a search finds -/

theorem occurrencesFrom_found {position : Nat} {lexeme after : Text}
    (here : leading? first second (lexeme ++ after) = some lexeme) :
    occurrencesFrom first second position 0 (lexeme ++ after) =
      ⟨position, lexeme⟩ :: occurrencesFrom first second (position + lexeme.size) 0 after := by
  obtain ⟨head, rest, rfl⟩ :=
    List.exists_cons_of_ne_nil (ne_nil_of_leading? firstNonempty secondNonempty here)
  rw [List.cons_append] at here ⊢
  rw [occurrencesFrom_zero_cons, here]
  simp only [List.length_cons, Nat.add_sub_cancel]
  rw [occurrencesFrom_length_append, Text.size_cons, Nat.add_assoc]

/-- A search that goes on in the rest of the text ends with the occurrences in it. -/
theorem reaches_end {text before rest : Text} (whole : text = before ++ rest)
    (found : List Occurrence) :
    Relation.ReflTransGen (Search.Step first second text) ⟨found, rest⟩
      ⟨found ++ occurrencesFrom first second before.size 0 rest, []⟩ := by
  induction rest using search_induction firstNonempty secondNonempty generalizing before found with
  | nil =>
      rw [occurrencesFrom, List.append_nil]
  | found lexeme after here ih =>
      have further : text = (before ++ lexeme) ++ after := by rw [whole, List.append_assoc]
      have later := ih further (found ++ [⟨before.size, lexeme⟩])
      rw [occurrencesFrom_found firstNonempty secondNonempty here, List.append_cons,
        ← Text.size_append]
      exact .head (step_found firstNonempty secondNonempty whole here found) later
  | passed head rest absent ih =>
      have further : text = (before ++ [head]) ++ rest := by rw [whole, List.append_cons]
      have later := ih further found
      rw [Text.size_append] at later
      rw [occurrencesFrom_passed absent]
      exact .head (step_passed absent found) later

/-- A delimiter in the text is found, or starts inside of one that is found. -/
theorem exists_mem_occurrencesFrom (position : Nat) {text before literal after : Text}
    (whole : text = before ++ (literal ++ after)) (kind : literal = first ∨ literal = second) :
    ∃ occurrence ∈ occurrencesFrom first second position 0 text,
      occurrence.position = position + before.size ∨
        occurrence.position < position + before.size ∧
          position + before.size < occurrence.stop := by
  induction text using search_induction firstNonempty secondNonempty
    generalizing position before with
  | nil =>
      obtain ⟨-, empty⟩ := List.append_eq_nil_iff.mp whole.symm
      obtain ⟨rfl, -⟩ := List.append_eq_nil_iff.mp empty
      rcases kind with same | same
      · exact absurd same.symm firstNonempty
      · exact absurd same.symm secondNonempty
  | found lexeme rest here ih =>
      rw [occurrencesFrom_found firstNonempty secondNonempty here]
      by_cases inRest : lexeme.size ≤ before.size
      · obtain ⟨middle, rfl, remainder⟩ := Text.exists_append_of_size_le whole inRest
        obtain ⟨occurrence, member, place⟩ := ih (position + lexeme.size) remainder
        rw [Nat.add_assoc, ← Text.size_append] at place
        exact ⟨occurrence, List.mem_cons_of_mem _ member, place⟩
      · refine ⟨_, List.mem_cons_self, ?_⟩
        simp only [Occurrence.stop]
        omega
  | passed head rest absent ih =>
      rw [occurrencesFrom_passed absent]
      cases before with
      | nil =>
          rw [whole, List.nil_append] at absent
          exact absurd absent (leading?_ne_none kind)
      | cons other before =>
          obtain ⟨rfl, remainder⟩ := List.cons.inj whole
          obtain ⟨occurrence, member, place⟩ := ih (position + head.utf8Size) remainder
          rw [Nat.add_assoc, ← Text.size_cons] at place
          exact ⟨occurrence, member, place⟩

theorem leftmostOccurrences_occurrences (text : Text) :
    LeftmostOccurrences first second text (occurrences first second text) where
  increasing := by
    refine (pairwise_occurrences first second text).imp_of_mem ?_
    intro earlier later member _ apart
    have nonempty : earlier.lexeme ≠ [] := by
      rcases (exists_parts_of_mem_occurrences member).1 with same | same <;> rw [same]
      · exact firstNonempty
      · exact secondNonempty
    exact Nat.lt_of_lt_of_le (Occurrence.position_lt_stop nonempty) apart
  apart := pairwise_occurrences first second text
  chosen := by
    rintro ⟨position, lexeme⟩ member
    obtain ⟨-, before, after, rfl, rfl⟩ := exists_parts_of_mem_occurrences member
    have here := ((mem_occurrences_append_iff firstNonempty secondNonempty).mp member).2
    simpa only [occursAt_append_iff] using leading?_eq_some_iff.mp here
  complete := by
    intro position occurs
    have searched {literal : Text} (kind : literal = first ∨ literal = second)
        (occurs : literal.OccursAt text position) :
        ∃ occurrence ∈ occurrences first second text, occurrence.position = position ∨
          occurrence.position < position ∧ position < occurrence.stop := by
      obtain ⟨before, after, whole, rfl⟩ := occurs
      simpa only [occurrences, Nat.zero_add] using
        exists_mem_occurrencesFrom firstNonempty secondNonempty 0 whole kind
    rcases occurs with occurs | occurs
    · exact searched (.inl rfl) occurs
    · exact searched (.inr rfl) occurs

end

end

/-- The result of a search: the steps come to an end, and there what is found are the leftmost occurrences,
of which there is only one list. -/
structure IsSearched (first second text : Text) (found : List Occurrence) : Prop where
  progress : ∀ search next, Search.Step first second text search next →
    next.rest.size < search.rest.size
  ends : Relation.ReflTransGen (Search.Step first second text) ⟨[], text⟩ ⟨found, []⟩
  stops : Search.next? first second text ⟨found, []⟩ = none
  leftmost : LeftmostOccurrences first second text found
  unique : ∀ others, LeftmostOccurrences first second text others → others = found

theorem isSearched_occurrences {first second : Text} (firstNonempty : first ≠ [])
    (secondNonempty : second ≠ []) (text : Text) :
    IsSearched first second text (occurrences first second text) where
  progress _ _ := size_rest_lt_of_step firstNonempty secondNonempty
  ends := reaches_end firstNonempty secondNonempty (List.nil_append text).symm []
  stops := rfl
  leftmost := leftmostOccurrences_occurrences firstNonempty secondNonempty text
  unique _ leftmost :=
    leftmost.eq (leftmostOccurrences_occurrences firstNonempty secondNonempty text)

/-- For all delimiters that can be chosen, both searches of a scan end, and each finds all the leftmost
occurrences of its two delimiters. -/
theorem Scan.isSearched_ofText (delimiters : Delimiters) (text : Text) :
    IsSearched delimiters.variableOpen delimiters.blockOpen text
        (Scan.ofText delimiters text).opens ∧
      IsSearched delimiters.variableClose delimiters.blockClose text
        (Scan.ofText delimiters text).closes :=
  ⟨isSearched_occurrences delimiters.variableOpen_ne_nil delimiters.blockOpen_ne_nil text,
    isSearched_occurrences delimiters.variableClose_ne_nil delimiters.blockClose_ne_nil text⟩

end Stencil

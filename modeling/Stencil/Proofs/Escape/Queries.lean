import Mathlib.Data.List.Sort
import Stencil.Proofs.Escape.FormEncoding
import Stencil.Proofs.Outcome
import Stencil.Proofs.Text.Splitting
import Stencil.Proofs.Value.Paths

/-!
# Queries

A list or map is written as a query with one field for each scalar in it except null, in the order of the
ways that lead there. The key of a field names the way. Read as fields of a form, the query gives the keys
and the texts back, whatever characters are in them.
-/

set_option autoImplicit false

namespace Stencil

namespace Escape

open Value (Step)

/-! ## Reading queries -/

/-- The key and the text of a field, which are separated by its only equals sign. -/
def queryField? (field : Text) : Option (Text × Text) :=
  match Text.split (· == '=') field with
  | [key, text] => do return (← formText? key, ← formText? text)
  | _ => none

def readQuery? (written : Text) : Option (List (Text × Text)) :=
  if written = [] then some [] else (Text.split (· == '&') written).mapM queryField?

theorem not_mem_url {mark : Char} (separates : mark = '&' ∨ mark = '=') (text : Text) :
    mark ∉ url text := by
  intro member
  rcases mem_url member with plain | rfl | rfl
  · obtain ⟨-, -, notAmpersand, notEquals⟩ := ne_of_isFormCharacter plain
    exact separates.elim notAmpersand notEquals
  · exact absurd separates (by decide)
  · exact absurd separates (by decide)

def fieldForm (pair : Text × Text) : Text := url pair.1 ++ ('=' :: url pair.2)

theorem queryField?_fieldForm (pair : Text × Text) : queryField? (fieldForm pair) = some pair := by
  rw [queryField?, fieldForm, Text.split_append_cons (not_mem_url (.inr rfl) pair.1),
    Text.split_of_not_mem (not_mem_url (.inr rfl) pair.2)]
  simp only [formText?_url, Option.bind_eq_bind, Option.bind_some, Option.pure_def]

theorem not_mem_fieldForm (pair : Text × Text) : '&' ∉ fieldForm pair := by
  simp [fieldForm, not_mem_url]

theorem mapM_queryField? (pairs : List (Text × Text)) :
    (pairs.map fieldForm).mapM queryField? = some pairs := by
  induction pairs with
  | nil => rfl
  | cons pair pairs ih =>
      rw [List.map_cons, List.mapM_cons, queryField?_fieldForm, ih]
      rfl

theorem readQuery?_query (pairs : List (Text × Text)) : readQuery? (query pairs) = some pairs := by
  cases pairs with
  | nil => rfl
  | cons pair pairs =>
      have unmarked : ∀ field ∈ (pair :: pairs).map fieldForm, '&' ∉ field := by
        intro field member
        obtain ⟨written, -, rfl⟩ := List.mem_map.mp member
        exact not_mem_fieldForm written
      have fields : Text.split (· == '&') (query (pair :: pairs)) = (pair :: pairs).map fieldForm :=
        Text.split_join (by simp) unmarked
      -- Even a field with an empty key and an empty text has its equals sign.
      have nonempty : query (pair :: pairs) ≠ [] := by
        intro empty
        rw [empty] at fields
        have short : fieldForm pair = [] := (List.cons.inj fields).1.symm
        simp [fieldForm] at short
      rw [readQuery?, if_neg nonempty, fields, mapM_queryField?]

/-! ## The fields of a value -/

/-- The text of a scalar other than null in a query. -/
def leafText? : Value → Option Text
  | .null => none
  | .bool truth => some (if truth then ['1'] else ['0'])
  | leaf => leaf.text?

def bracketed (step : Step) : Text := '[' :: (step.text ++ [']'])

/-- The key that names a way: its first step, and each further one in brackets. -/
def keyText : List Step → Text
  | [] => []
  | step :: steps => step.text ++ steps.flatMap bracketed

/-- The texts of the scalars other than null in a value, with the ways that lead there, in order. -/
structure Leaves (value : Value) (leaves : List (List Step × Text)) : Prop where
  mem_iff {path : List Step} {text : Text} :
    (path, text) ∈ leaves ↔ ∃ leaf, value.Leads path leaf ∧ leafText? leaf = some text
  in_order : leaves.Pairwise fun first second => first.1 < second.1

theorem Leaves.eq {value : Value} {first second : List (List Step × Text)}
    (leaves : Leaves value first) (leaves' : Leaves value second) : first = second := by
  have asymm : Std.Asymm fun first second : List Step × Text => first.1 < second.1 :=
    ⟨fun _ _ => List.lt_asymm⟩
  refine List.Pairwise.eq_of_mem_iff leaves.in_order leaves'.in_order ?_
  rintro ⟨path, text⟩
  rw [leaves.mem_iff, leaves'.mem_iff]

/-- A host object is inside of a value, or it is the value itself. -/
def HoldsObject (value : Value) : Prop := ∃ path leaf, value.Leads path leaf ∧ leaf.kind = .object

def leavesAmong (reached : List (List Step × Value)) : List (List Step × Text) :=
  reached.filterMap fun found => (leafText? found.2).map (found.1, ·)

/-- The leaves among what has been reached, with keys, unless there is a host object among it. -/
def collect (key : List Step → Text) (reached : List (List Step × Value)) :
    Except EscapeError (List (Text × Text)) :=
  if reached.any (·.2.kind = .object) then .error ⟨urlContext, .object⟩
  else .ok ((leavesAmong reached).map fun (path, text) => (key path, text))

section

variable (key : List Step → Text)

theorem collect_here (value : Value) :
    collect key [([], value)] =
      if value.kind = .object then .error ⟨urlContext, .object⟩
      else .ok ((leafText? value).toList.map (key [], ·)) := by
  have isObject : [(([] : List Step), value)].any (·.2.kind = .object) =
      decide (value.kind = .object) := Bool.or_false _
  have leaves : leavesAmong [([], value)] = (leafText? value).toList.map ([], ·) := by
    rw [leavesAmong, List.filterMap_cons]
    cases leafText? value <;> rfl
  simp only [collect, isObject, leaves, decide_eq_true_eq, List.map_map]
  rfl

theorem collect_append (first second : List (List Step × Value)) :
    collect key (first ++ second) =
      (do return (← collect key first) ++ (← collect key second)) := by
  unfold collect leavesAmong
  rw [List.any_append, List.filterMap_append, List.map_append]
  cases first.any (·.2.kind = .object) <;> cases second.any (·.2.kind = .object) <;> rfl

theorem collect_through (step : Step) (reached : List (List Step × Value)) :
    collect key (reached.map fun found => (step :: found.1, found.2)) =
      collect (fun path => key (step :: path)) reached := by
  have leaves : leavesAmong (reached.map fun found => (step :: found.1, found.2)) =
      (leavesAmong reached).map fun (path, text) => (step :: path, text) := by
    simp only [leavesAmong, List.filterMap_map, List.map_filterMap, Function.comp_def, Option.map_map]
  unfold collect
  rw [List.any_map, leaves, List.map_map]
  rfl

end

/-- What is written for a value under a key is collected from what is reached from it. -/
def Collects (value : Value) : Prop :=
  ∀ key, leaves key value = collect (fun path => key ++ path.flatMap bracketed) value.reached

section

variable {key : Text → Text} {keyOf : List Step → Text}
  (goes_on : ∀ step path, keyOf (step :: path) = key step.text ++ path.flatMap bracketed)

include goes_on

theorem collect_reachedThrough_cons (step : Step) {inner : Value} (collects : Collects inner)
    (others : List (Step × Value)) :
    collect keyOf (Value.reachedThrough ((step, inner) :: others)) =
      (do return (← leaves (key step.text) inner) ++
        (← collect keyOf (Value.reachedThrough others))) := by
  have first : collect keyOf (inner.reached.map fun found => (step :: found.1, found.2)) =
      leaves (key step.text) inner := by
    rw [collect_through, collects (key step.text)]
    simp only [goes_on]
  rw [← first]
  exact collect_append keyOf _ _

theorem leavesOfItems_eq_collect (position : Nat) {items : List Value}
    (each : ∀ item ∈ items, Collects item) :
    leavesOfItems key position items =
      collect keyOf (Value.reachedThrough (Value.itemsFrom position items)) := by
  induction items generalizing position with
  | nil => rfl
  | cons item items ih =>
      obtain ⟨here, later⟩ := List.forall_mem_cons.mp each
      rw [leavesOfItems, ih (position + 1) later]
      exact (collect_reachedThrough_cons goes_on (.index position) here _).symm

theorem leavesOfEntries_eq_collect {entries : List (Text × Value)}
    (each : ∀ entry ∈ entries, Collects entry.2) :
    leavesOfEntries key entries =
      collect keyOf (Value.reachedThrough (Value.children (.map entries))) := by
  induction entries with
  | nil => rfl
  | cons entry entries ih =>
      obtain ⟨here, later⟩ := List.forall_mem_cons.mp each
      rw [leavesOfEntries, ih later]
      exact (collect_reachedThrough_cons goes_on (.name entry.1) here _).symm

end

theorem append_flatMap_bracketed (key : Text) (step : Step) (path : List Step) :
    key ++ (step :: path).flatMap bracketed =
      (key ++ ('[' :: (step.text ++ [']']))) ++ path.flatMap bracketed := by
  rw [List.flatMap_cons, bracketed, List.append_assoc]

theorem collects (value : Value) : Collects value := by
  induction value using Value.induction_children with
  | step value ih =>
      intro key
      cases value with
      | list items =>
          have each : ∀ item ∈ items, Collects item := by
            intro item member
            obtain ⟨step, among⟩ := Value.exists_mem_children_list member
            exact ih _ among
          rw [Value.reached_of_isContainer rfl, leaves]
          exact leavesOfItems_eq_collect (append_flatMap_bracketed key) 0 each
      | map entries =>
          have each : ∀ entry ∈ entries, Collects entry.2 := fun entry member =>
            ih (.name entry.1, entry.2) (List.mem_map.mpr ⟨entry, member, rfl⟩)
          rw [Value.reached_of_isContainer rfl, leaves]
          exact leavesOfEntries_eq_collect (append_flatMap_bracketed key) each
      | _ =>
          rw [Value.reached_of_not_isContainer rfl, leaves, collect_here, List.flatMap_nil,
            List.append_nil]
          rfl

/-- The escaper of URLs writes the query of all that is collected from a list or map. -/
theorem urlEscaper_of_isContainer {value : Value} (container : value.isContainer = true)
    (options : Fields) : urlEscaper value options = (collect keyText value.reached).map query := by
  have goes_on : ∀ step path, keyText (step :: path) = id step.text ++ path.flatMap bracketed :=
    fun _ _ => rfl
  rw [Value.reached_of_isContainer container]
  cases value with
  | list items =>
      rw [urlEscaper, leavesOfItems_eq_collect goes_on 0 fun item _ => collects item]
      rfl
  | map entries => rw [urlEscaper, leavesOfEntries_eq_collect goes_on fun entry _ => collects entry.2]
  | _ => cases container

/-! ## Fields of a form and queries -/

theorem holdsObject_iff {value : Value} :
    HoldsObject value ↔ value.reached.any (·.2.kind = .object) = true := by
  simp only [HoldsObject, List.any_eq_true, decide_eq_true_eq, Prod.exists]
  constructor
  · rintro ⟨path, leaf, leads, isObject⟩
    have scalar : leaf.isContainer = false := by
      cases leaf with
      | list | map => cases isObject
      | _ => rfl
    exact ⟨path, leaf, Value.mem_reached_iff.mpr ⟨leads, scalar⟩, isObject⟩
  · rintro ⟨path, leaf, member, isObject⟩
    exact ⟨path, leaf, (Value.mem_reached_iff.mp member).1, isObject⟩

theorem isContainer_of_leafText? {leaf : Value} {text : Text} (written : leafText? leaf = some text) :
    leaf.isContainer = false := by
  cases leaf with
  | list | map => cases written
  | _ => rfl

/-- The scalars other than null among what is reached are the leaves of a value. -/
theorem leaves_reached {value : Value} (ordered : value.Ordered) :
    Leaves value (leavesAmong value.reached) where
  mem_iff {path text} := by
    simp only [leavesAmong, List.mem_filterMap, Option.map_eq_some_iff, Prod.mk.injEq, Prod.exists]
    constructor
    · rintro ⟨_, leaf, member, _, written, rfl, rfl⟩
      exact ⟨leaf, (Value.mem_reached_iff.mp member).1, written⟩
    · rintro ⟨leaf, leads, written⟩
      exact ⟨path, leaf, Value.mem_reached_iff.mpr ⟨leads, isContainer_of_leafText? written⟩, text,
        written, rfl, rfl⟩
  in_order := by
    refine (Value.pairwise_reached ordered).filterMap _ fun first second less => ?_
    intro leaf written leaf' written'
    obtain ⟨_, _, rfl⟩ := Option.map_eq_some_iff.mp written
    obtain ⟨_, _, rfl⟩ := Option.map_eq_some_iff.mp written'
    exact less

section

variable {value : Value} (container : value.isContainer = true) (options : Fields)

include container

theorem urlEscaper_of_holdsObject (holds : HoldsObject value) :
    urlEscaper value options = .error ⟨urlContext, .object⟩ := by
  rw [urlEscaper_of_isContainer container, collect, if_pos (holdsObject_iff.mp holds)]
  rfl

theorem urlEscaper_of_not_holdsObject (free : ¬HoldsObject value) :
    urlEscaper value options =
      .ok (query ((leavesAmong value.reached).map fun (path, text) => (keyText path, text))) := by
  rw [urlEscaper_of_isContainer container, collect, if_neg (mt holdsObject_iff.mpr free)]
  rfl

end

/-- A text is written as the field of a form, in characters that may stand there, and read back. A list or
map is written unless there is a host object in it, as the query of all its scalars other than null in
the order of the ways that lead there, with the keys that name these ways. -/
theorem url_encodes_leaves :
    (∀ (text : Text) (options : Fields), urlEscaper (.string text) options = .ok (url text) ∧
      (∀ written ∈ url text, IsFormCharacter written ∨ written = '+' ∨ written = '%') ∧
        (∀ after, '%' :: after <:+ url text → StartsByte ('%' :: after)) ∧
          formText? (url text) = some text) ∧
      ∀ (value : Value) (options : Fields), value.isContainer = true → value.Ordered →
        (∀ error, urlEscaper value options = .error error ↔
          HoldsObject value ∧ error = ⟨urlContext, .object⟩) ∧
          (¬HoldsObject value → ∃ written leaves, urlEscaper value options = .ok written ∧
            (∀ other, Leaves value other ↔ other = leaves) ∧
              readQuery? written = some (leaves.map fun (path, text) => (keyText path, text))) := by
  constructor
  · intro text options
    exact ⟨rfl, fun _ => mem_url, fun _ => startsByte_of_suffix_url, formText?_url text⟩
  · intro value options container ordered
    constructor
    · intro error
      by_cases holds : HoldsObject value
      · rw [urlEscaper_of_holdsObject container options holds, Except.error.injEq]
        exact ⟨fun same => ⟨holds, same.symm⟩, fun failure => failure.2.symm⟩
      · rw [urlEscaper_of_not_holdsObject container options holds]
        constructor
        · intro same
          cases same
        · rintro ⟨held, -⟩
          exact absurd held holds
    · intro free
      have leaves := leaves_reached ordered
      refine ⟨_, _, urlEscaper_of_not_holdsObject container options free, fun other => ?_,
        readQuery?_query _⟩
      exact ⟨fun leaves' => leaves'.eq leaves, fun same => same ▸ leaves⟩

def listAndNumber : Value :=
  .map [("a".toList, .list [.bool true, .null, .string "x&y".toList]), ("b".toList, .number 5)]

theorem ordered_listAndNumber : listAndNumber.Ordered := by
  have items : ∀ item ∈ [Value.bool true, .null, .string "x&y".toList], item.Ordered := by
    intro item member
    apply Value.ordered_of_not_isContainer
    simp only [List.mem_cons, List.not_mem_nil, or_false] at member
    rcases member with rfl | rfl | rfl <;> rfl
  refine Value.ordered_map (by unfold Dictionary.Sorted; decide) ?_
  intro entry member
  rcases List.mem_pair.mp member with rfl | rfl
  · exact Value.ordered_list items
  · exact Value.ordered_of_not_isContainer rfl

theorem url_encodes_leaves_listAndNumber :
    listAndNumber.isContainer = true ∧ listAndNumber.Ordered ∧ ¬HoldsObject listAndNumber ∧
      ∃ written leaves, urlEscaper listAndNumber [] = .ok written ∧
        (∀ other, Leaves listAndNumber other ↔ other = leaves) ∧
          readQuery? written = some (leaves.map fun (path, text) => (keyText path, text)) := by
  have ordered : listAndNumber.Ordered := ordered_listAndNumber
  have written : urlEscaper listAndNumber [] = .ok "a%5B0%5D=1&a%5B2%5D=x%26y&b=5".toList := rfl
  have free : ¬HoldsObject listAndNumber := by
    intro holds
    rw [urlEscaper_of_holdsObject rfl [] holds] at written
    cases written
  exact ⟨rfl, ordered, free, (url_encodes_leaves.2 listAndNumber [] rfl ordered).2 free⟩

end Escape

end Stencil

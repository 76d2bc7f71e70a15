import Mathlib.Data.List.Range
import Stencil.Value
import Stencil.Proofs.Text.ByteOrder

/-!
# What is inside of values

The values inside of a list or map are reached by steps from one to the next, each to the item of a list or
to the entry of a map. `Value.reached` goes through all of them from left to right. It comes to every
value that is neither list nor map exactly once, in the order of the ways that lead there.
-/

set_option autoImplicit false

namespace Stencil.Value

/-! ## Steps -/

/-- A step from a list or map to one of the values in it. -/
inductive Step where
  | index (position : Nat)
  | name (name : Text)
  deriving DecidableEq

namespace Step

def text : Step → Text
  | .index position => Numeral.ofNat position
  | .name written => written

/-- Items are in the order of their positions, and entries in the order of the bytes of their names. -/
inductive Before : Step → Step → Prop where
  | index {first second : Nat} (less : first < second) : Before (.index first) (.index second)
  | name {first second : Text} (less : first.bytes < second.bytes) :
      Before (.name first) (.name second)

instance : LT Step := ⟨Before⟩

instance : Std.Asymm (· < · : Step → Step → Prop) where
  asymm first second less greater := by
    cases less with
    | index less =>
        cases greater with
        | index greater => exact Nat.lt_asymm less greater
    | name less =>
        cases greater with
        | name greater => exact List.lt_asymm less greater

end Step

def itemsFrom (position : Nat) (items : List Value) : List (Step × Value) :=
  (items.zipIdx position).map fun (item, index) => (.index index, item)

/-- The values in a list or map, with the steps to them. -/
def children : Value → List (Step × Value)
  | .list items => itemsFrom 0 items
  | .map entries => entries.map fun (name, item) => (.name name, item)
  | _ => []

def isContainer : Value → Bool
  | .list _ | .map _ => true
  | _ => false

variable {value inner leaf : Value} {step : Step} {path : List Step}

theorem children_of_not_isContainer (scalar : value.isContainer = false) : value.children = [] := by
  cases value with
  | list | map => cases scalar
  | _ => rfl

theorem exists_mem_children_list {items : List Value} (member : inner ∈ items) :
    ∃ step, (step, inner) ∈ children (.list items) := by
  rw [← List.zipIdx_map_fst 0 items] at member
  obtain ⟨⟨item, index⟩, among, rfl⟩ := List.mem_map.mp member
  exact ⟨.index index, List.mem_map.mpr ⟨_, among, rfl⟩⟩

theorem sizeOf_lt_of_mem_children (member : (step, inner) ∈ value.children) :
    sizeOf inner < sizeOf value := by
  cases value with
  | list items =>
      obtain ⟨⟨item, index⟩, among, same⟩ := List.mem_map.mp member
      cases same
      have smaller : sizeOf inner < sizeOf items :=
        List.sizeOf_lt_of_mem (List.fst_mem_of_mem_zipIdx among)
      simp only [list.sizeOf_spec]
      omega
  | map entries =>
      obtain ⟨⟨name, item⟩, among, same⟩ := List.mem_map.mp member
      cases same
      have smaller := List.sizeOf_lt_of_mem among
      simp only [Prod.mk.sizeOf_spec, map.sizeOf_spec] at smaller ⊢
      omega
  | _ => cases member

/-- A property of a value may be shown from the same property of the values in it. -/
theorem induction_children {motive : Value → Prop}
    (step : ∀ value, (∀ child ∈ value.children, motive child.2) → motive value) (value : Value) :
    motive value :=
  step value fun child member =>
    have := sizeOf_lt_of_mem_children member
    induction_children step child.2
termination_by sizeOf value

/-! ## Ways -/

/-- The steps of a way lead from a value to another one. -/
inductive Leads : Value → List Step → Value → Prop where
  | here (value : Value) : Leads value [] value
  | down {value inner found : Value} {step : Step} {steps : List Step}
      (member : (step, inner) ∈ value.children) (leads : Leads inner steps found) :
      Leads value (step :: steps) found

/-- The entries of every map inside of a value are in the order of their names. -/
def Ordered (value : Value) : Prop :=
  ∀ path entries, value.Leads path (.map entries) → Dictionary.Sorted entries

theorem Ordered.child (ordered : value.Ordered) (member : (step, inner) ∈ value.children) :
    inner.Ordered :=
  fun path entries leads => ordered (step :: path) entries (.down member leads)

theorem ordered_of_not_isContainer (scalar : value.isContainer = false) : value.Ordered := by
  intro path entries leads
  cases leads with
  | here => cases scalar
  | down member => rw [children_of_not_isContainer scalar] at member; cases member

theorem ordered_list {items : List Value} (each : ∀ item ∈ items, item.Ordered) :
    (list items).Ordered := by
  intro path entries leads
  cases leads with
  | down member leads =>
      obtain ⟨⟨item, index⟩, among, same⟩ := List.mem_map.mp member
      cases same
      exact each _ (List.fst_mem_of_mem_zipIdx among) _ _ leads

theorem ordered_map {entries : List (Text × Value)} (sorted : Dictionary.Sorted entries)
    (each : ∀ entry ∈ entries, entry.2.Ordered) : (map entries).Ordered := by
  intro path inner leads
  cases leads with
  | here => exact sorted
  | down member leads =>
      obtain ⟨entry, among, same⟩ := List.mem_map.mp member
      cases same
      exact each entry among _ _ leads

/-- All that is reached from a value and is neither list nor map, from left to right. -/
def reached (value : Value) : List (List Step × Value) :=
  if value.isContainer then
    value.children.attach.flatMap fun child =>
      child.1.2.reached.map fun found => (child.1.1 :: found.1, found.2)
  else [([], value)]
termination_by sizeOf value
decreasing_by exact sizeOf_lt_of_mem_children child.2

def reachedThrough (children : List (Step × Value)) : List (List Step × Value) :=
  children.flatMap fun child => child.2.reached.map fun found => (child.1 :: found.1, found.2)

theorem reached_of_isContainer (container : value.isContainer = true) :
    value.reached = reachedThrough value.children := by
  rw [reached, if_pos container, reachedThrough]
  simp only [List.flatMap_subtype, List.unattach_attach]

theorem reached_of_not_isContainer (scalar : value.isContainer = false) :
    value.reached = [([], value)] := by
  rw [reached, scalar]
  rfl

theorem mem_reachedThrough {children : List (Step × Value)} :
    (path, leaf) ∈ reachedThrough children ↔
      ∃ step inner steps, (step, inner) ∈ children ∧ (steps, leaf) ∈ inner.reached ∧
        path = step :: steps := by
  simp only [reachedThrough, List.mem_flatMap, List.mem_map, Prod.mk.injEq, Prod.exists]
  constructor
  · rintro ⟨step, inner, member, steps, _, found, rfl, rfl⟩
    exact ⟨step, inner, steps, member, found, rfl⟩
  · rintro ⟨step, inner, steps, member, found, rfl⟩
    exact ⟨step, inner, member, steps, leaf, found, rfl, rfl⟩

theorem mem_reached_iff :
    (path, leaf) ∈ value.reached ↔ value.Leads path leaf ∧ leaf.isContainer = false := by
  induction value using induction_children generalizing path with
  | step value ih =>
      cases container : value.isContainer with
      | true =>
          rw [reached_of_isContainer container, mem_reachedThrough]
          constructor
          · rintro ⟨step, inner, steps, member, found, rfl⟩
            obtain ⟨leads, scalar⟩ := (ih _ member).mp found
            exact ⟨.down member leads, scalar⟩
          · rintro ⟨leads, scalar⟩
            cases leads with
            | here => rw [container] at scalar; cases scalar
            | down member leads => exact ⟨_, _, _, member, (ih _ member).mpr ⟨leads, scalar⟩, rfl⟩
      | false =>
          rw [reached_of_not_isContainer container, List.mem_singleton, Prod.mk.injEq]
          constructor
          · rintro ⟨rfl, rfl⟩
            exact ⟨.here _, container⟩
          · rintro ⟨leads, -⟩
            cases leads with
            | here => exact ⟨rfl, rfl⟩
            | down member => rw [children_of_not_isContainer container] at member; cases member

theorem pairwise_itemsFrom (position : Nat) (items : List Value) :
    (itemsFrom position items).Pairwise fun first second => first.1 < second.1 := by
  have positions : ((items.zipIdx position).map Prod.snd).Pairwise (· < ·) := by
    rw [List.zipIdx_map_snd]
    exact List.pairwise_lt_range'
  rw [List.pairwise_map] at positions
  rw [itemsFrom, List.pairwise_map]
  exact positions.imp Step.Before.index

theorem pairwise_children (ordered : value.Ordered) :
    value.children.Pairwise fun first second => first.1 < second.1 := by
  cases value with
  | list items => exact pairwise_itemsFrom 0 items
  | map entries =>
      have sorted : Dictionary.Sorted entries := ordered [] entries (.here _)
      rw [Dictionary.Sorted, Dictionary.names, List.pairwise_map] at sorted
      rw [children, List.pairwise_map]
      exact sorted.imp fun first => .name (Text.bytes_lt_of_before first)
  | _ => exact List.Pairwise.nil

theorem pairwise_reached (ordered : value.Ordered) :
    value.reached.Pairwise fun first second => first.1 < second.1 := by
  induction value using induction_children with
  | step value ih =>
      cases container : value.isContainer with
      | true =>
          rw [reached_of_isContainer container, reachedThrough, List.pairwise_flatMap]
          -- Ways through the same child go on from a common step, and others differ in their first one.
          constructor
          · rintro ⟨step, inner⟩ member
            rw [List.pairwise_map]
            exact (ih _ member (ordered.child member)).imp fun less =>
              List.cons_lt_cons_iff.mpr (.inr ⟨rfl, less⟩)
          · refine (pairwise_children ordered).imp fun less first among second among' => ?_
            obtain ⟨found, -, rfl⟩ := List.mem_map.mp among
            obtain ⟨found', -, rfl⟩ := List.mem_map.mp among'
            exact List.cons_lt_cons_iff.mpr (.inl less)
      | false =>
          rw [reached_of_not_isContainer container]
          exact List.pairwise_singleton _ _

end Stencil.Value

import Stencil.Proofs.Numeral.Digits
import Stencil.Proofs.Outcome
import Stencil.Proofs.Text.Splitting
import Stencil.Proofs.Value.Paths
import Stencil.Scope

/-!
# Aliases

A name that is bound to an item of a list or to an entry of a map stands for the path that leads to the
item: whatever follows the name leads to the same value, to nothing or to the same missing method as
after that path. For this no name in scope may contain a dot, since such a name would be taken as a
whole.
-/

set_option autoImplicit false

namespace Stencil

/-! ## Items of collections -/

theorem Numeral.toNat?_ofNat (number : Nat) : toNat? (ofNat number) = some number := by
  unfold toNat?
  split
  · next signed =>
      -- A plus sign is no digit.
      have sign : '+' ∈ ofNat number := by
        rw [signed]
        exact List.mem_cons_self
      exact absurd (isDigit_of_mem_ofNat sign) (by decide)
  · exact digits?_ofNat number

theorem Dictionary.mem_names_of_get? {α : Type} {dictionary : Dictionary α} {name : Text} {value : α}
    (found : dictionary.get? name = some value) : name ∈ dictionary.names := by
  induction dictionary with
  | nil => cases found
  | cons entry rest ih =>
      obtain ⟨other, held⟩ := entry
      rw [get?] at found
      split at found
      · next same => exact same ▸ List.mem_cons_self
      · exact List.mem_cons_of_mem _ (ih found)

/-- The value that a list has at an index, or that a map has under a name. -/
def Value.item? : Value → Step → Option Value
  | .list items, .index position => items[position]?
  | .map entries, .name name => Dictionary.get? entries name
  | _, _ => none

namespace Segment

@[simp] theorem raw_ofText (text : Text) : (ofText text).raw = text := by
  unfold ofText
  split <;> rfl

end Segment

namespace Scope

variable {scope : Scope} {path first second : Text} {value : Value}

/-- One segment leads from a collection to its item, even if the name of the item looks like a call. -/
theorem step_ofText {collection item : Value} {step : Value.Step}
    (held : collection.item? step = some item) :
    Scope.step collection (.ofText step.text) = .ok (some item) := by
  cases collection with
  | list items =>
      cases step with
      | index position =>
          simp only [Scope.step, Segment.raw_ofText, Value.Step.text, Numeral.toNat?_ofNat]
          exact congrArg Except.ok held
      | name key => cases held
  | map entries =>
      cases step with
      | index position => cases held
      | name key =>
          simp only [Scope.step, Segment.raw_ofText]
          exact congrArg Except.ok held
  | _ => cases held

/-! ## Paths in parts -/

def segments (text : Text) : List Segment := (Text.split (· == '.') text).map .ofText

/-- Where segments lead from what has been found. -/
def walkFrom (segments : List Segment) : Option Value → Except RenderError (Option Value)
  | none => .ok none
  | some value => walk value segments

theorem walk_append (value : Value) (before after : List Segment) :
    walk value (before ++ after) = walk value before >>= walkFrom after := by
  induction before generalizing value with
  | nil => rfl
  | cons segment before ih =>
      rw [List.cons_append, walk, walk]
      cases Scope.step value segment with
      | error error => rfl
      | ok found =>
          cases found with
          | none => rfl
          | some next => exact ih next

theorem walkFrom_append (before after : List Segment) (found : Option Value) :
    walkFrom (before ++ after) found = walkFrom before found >>= walkFrom after := by
  cases found with
  | none => rfl
  | some value => exact walk_append value before after

/-! ## Scopes without dots -/

/-- The names that have a value in a scope. -/
def names (scope : Scope) : List Text := Dictionary.names (scope.bindings ++ scope.root)

def Undotted (scope : Scope) : Prop := ∀ name ∈ scope.names, '.' ∉ name

theorem Undotted.bind (undotted : scope.Undotted) {name : Text} (plain : '.' ∉ name) (value : Value) :
    (scope.bind name value).Undotted :=
  List.forall_mem_cons.mpr ⟨plain, undotted⟩

/-- Where no name contains a dot, a path leads on from the name that it begins with. -/
theorem Undotted.resolve_eq (undotted : scope.Undotted) {name : Text} {further : List Text}
    (parts : Text.split (· == '.') path = name :: further) :
    scope.resolve path = walkFrom (further.map .ofText) (scope.get? name) := by
  rw [resolve]
  cases named : scope.get? path with
  | none =>
      simp only [parts]
      cases scope.get? name <;> rfl
  | some value =>
      have whole := Text.split_of_not_mem (undotted path (Dictionary.mem_names_of_get? named))
      cases parts.symm.trans whole
      rw [named]
      rfl

theorem Undotted.resolve_append (undotted : scope.Undotted) (path further : Text) :
    scope.resolve (path ++ '.' :: further) = scope.resolve path >>= walkFrom (segments further) := by
  obtain ⟨name, rest, parts⟩ :=
    List.exists_cons_of_ne_nil (Text.split_ne_nil (· == '.') path)
  have whole : Text.split (· == '.') (path ++ '.' :: further) =
      name :: (rest ++ Text.split (· == '.') further) := by
    rw [Text.split_append_mark, parts, List.cons_append]
  rw [undotted.resolve_eq parts, undotted.resolve_eq whole, List.map_append, walkFrom_append]
  rfl

theorem get?_bind_self (scope : Scope) (name : Text) (value : Value) :
    (scope.bind name value).get? name = some value :=
  if_pos rfl

theorem resolve_bind_self (scope : Scope) (name : Text) (value : Value) :
    (scope.bind name value).resolve name = .ok (some value) := by
  rw [resolve, get?_bind_self]

/-- A name that is bound to an item of a collection is an alias of the path to the item: whatever follows,
both lead to the same. -/
theorem Undotted.resolve_alias (undotted : scope.Undotted) {collection item : Value}
    {step : Value.Step} (leads : scope.resolve path = .ok (some collection))
    (held : collection.item? step = some item) (plainKey : ∀ key, step = .name key → '.' ∉ key)
    {name : Text} (plainName : '.' ∉ name) (further : Text) :
    (scope.bind name item).resolve (name ++ '.' :: further) =
      scope.resolve (path ++ '.' :: (step.text ++ '.' :: further)) := by
  have unmarked : '.' ∉ step.text := by
    cases step with
    | index position =>
        intro member
        exact absurd (Numeral.isDigit_of_mem_ofNat member) (by decide)
    | name key => exact plainKey key rfl
  have found : scope.resolve (path ++ '.' :: step.text) = .ok (some item) := by
    rw [undotted.resolve_append, leads, ok_bind, segments, Text.split_of_not_mem unmarked]
    simp only [List.map_cons, List.map_nil, walkFrom, walk, step_ofText held]
  have regrouped : path ++ '.' :: (step.text ++ '.' :: further) =
      (path ++ '.' :: step.text) ++ '.' :: further := by simp
  rw [(undotted.bind plainName item).resolve_append, resolve_bind_self, regrouped,
    undotted.resolve_append, found]

/-- An entry with a name that looks like a call, and a method that its items do not have. -/
theorem Undotted.resolve_alias_entry :
    let item : Value := .object 0 (fun _ => none) (fun _ => none)
    let entry : Value := .list [item]
    let collection : Value := .map [("f()".toList, entry)]
    let scope := (Scope.ofFields [("x".toList, .null)]).bind "set".toList collection
    scope.Undotted ∧ scope.resolve "set".toList = .ok (some collection) ∧
      collection.item? (.name "f()".toList) = some entry ∧
        (scope.bind "x".toList entry).resolve "x.0.no()".toList =
            scope.resolve "set.f().0.no()".toList ∧
          scope.resolve "set.f().0.no()".toList = .error (.methodNotFound "no".toList) := by
  intro item entry collection scope
  have undotted : scope.Undotted := by
    unfold Undotted
    decide
  have leads : scope.resolve "set".toList = .ok (some collection) := rfl
  have held : collection.item? (.name "f()".toList) = some entry := rfl
  have plainKey : ∀ key, Value.Step.name "f()".toList = .name key → '.' ∉ key := by
    intro key same
    cases same
    decide
  have plainName : '.' ∉ "x".toList := by decide
  exact ⟨undotted, leads, held, undotted.resolve_alias leads held plainKey plainName "0.no()".toList, rfl⟩

end Scope

end Stencil

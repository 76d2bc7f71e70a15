/-!
# Steps with an outcome

A computation in steps has a result exactly if each of its steps has one.
-/

set_option autoImplicit false

namespace Stencil

section

variable {ε δ α β : Type}

@[simp] theorem ok_bind (value : α) (next : α → Except ε β) :
    (Except.ok value >>= next) = next value := rfl

@[simp] theorem error_bind (error : ε) (next : α → Except ε β) :
    ((Except.error error : Except ε α) >>= next) = Except.error error := rfl

variable {first : Except ε α}

theorem bind_eq_ok_iff {next : α → Except ε β} {result : β} :
    (first >>= next) = .ok result ↔ ∃ value, first = .ok value ∧ next value = .ok result := by
  cases first with
  | error error => simp
  | ok value => simp

theorem map_eq_ok_iff {function : α → β} {result : β} :
    first.map function = .ok result ↔ ∃ value, first = .ok value ∧ function value = result := by
  cases first with
  | error error => simp [Except.map]
  | ok value => simp [Except.map]

theorem map_eq_error_iff {function : α → β} {error : ε} :
    first.map function = .error error ↔ first = .error error := by
  cases first with
  | error cause => simp [Except.map]
  | ok value => simp [Except.map]

theorem map_map {γ : Type} (first : Except ε α) (function : α → β) (next : β → γ) :
    (first.map function).map next = first.map fun value => next (function value) := by
  cases first <;> rfl

theorem mapError_eq_ok_iff {function : ε → δ} {result : α} :
    first.mapError function = .ok result ↔ first = .ok result := by
  constructor
  · intro same
    cases first with
    | error cause => cases same
    | ok value =>
        cases same
        rfl
  · rintro rfl
    rfl

theorem mapError_eq_error_iff {function : ε → δ} {error : δ} :
    first.mapError function = .error error ↔
      ∃ cause, first = .error cause ∧ function cause = error := by
  constructor
  · intro same
    cases first with
    | error cause => exact ⟨cause, rfl, Except.error.inj same⟩
    | ok value => cases same
  · rintro ⟨cause, rfl, rfl⟩
    rfl

end

end Stencil

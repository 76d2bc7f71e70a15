import Stencil.Proofs.Render.Evaluation

/-!
# Failures of content

Values, headers and contexts can make a rendering fail. Failures of this kind are kept apart from
those of malformed tags, of nesting and of spans, which none of the steps on values ever reports.
-/

set_option autoImplicit false

namespace Stencil

/-- The failure comes from what tags say and from the values, not from where tags stand. -/
def RenderError.OfContent : RenderError → Prop
  | malformed _ | maxDepthExceeded _ | spanOutOfBounds _ _ => False
  | _ => True

/-- The failure blames a malformed tag or the nesting of blocks. -/
def RenderError.BlamesTags : RenderError → Prop
  | malformed _ | maxDepthExceeded _ => True
  | _ => False

theorem RenderError.OfContent.not_blamesTags {error : RenderError} (content : error.OfContent) :
    ¬error.BlamesTags := by
  intro blames
  cases error <;> cases blames <;> cases content

/-- If there is no result, it is because of the content. -/
def FailsByContent {α : Type} (result : Except RenderError α) : Prop :=
  ∀ error, result = .error error → error.OfContent

namespace FailsByContent

variable {α β : Type}

theorem ok (value : α) : FailsByContent (.ok value) := by
  intro error failed
  cases failed

theorem error {error : RenderError} (content : error.OfContent) :
    FailsByContent (.error error : Except RenderError α) := by
  intro other failed
  cases failed
  exact content

theorem bind {first : Except RenderError α} {next : α → Except RenderError β}
    (firstFails : FailsByContent first) (nextFails : ∀ value, FailsByContent (next value)) :
    FailsByContent (first >>= next) := by
  intro error failed
  cases result : first with
  | error cause =>
      rw [result] at failed
      cases failed
      exact firstFails _ result
  | ok value =>
      rw [result] at failed
      exact nextFails value error failed

theorem mapM {step : α → Except RenderError β} (items : List α)
    (each : ∀ item, FailsByContent (step item)) : FailsByContent (items.mapM step) := by
  induction items with
  | nil => exact ok []
  | cons item items ih =>
      rw [List.mapM_cons]
      exact (each item).bind fun value => ih.bind fun values => ok (value :: values)

end FailsByContent

theorem Scope.failsByContent_step (current : Value) (segment : Segment) :
    FailsByContent (step current segment) := by
  cases current with
  | null | bool _ | number _ | float _ | string _ => exact .ok _
  | list items => exact .ok _
  | map entries => exact .ok _
  | object _ property method =>
      cases segment with
      | member name => exact .ok _
      | call raw name =>
          simp only [step]
          cases method name with
          | some value => exact .ok _
          | none => exact .error trivial

theorem Scope.failsByContent_walk (current : Value) (segments : List Segment) :
    FailsByContent (walk current segments) := by
  induction segments generalizing current with
  | nil => exact .ok _
  | cons segment segments ih =>
      simp only [walk]
      cases result : step current segment with
      | error error => exact .error (failsByContent_step current segment error result)
      | ok found =>
          cases found with
          | some next => exact ih next
          | none => exact .ok _

theorem Scope.failsByContent_resolve (scope : Scope) (path : Text) :
    FailsByContent (scope.resolve path) := by
  simp only [resolve]
  split
  · exact .ok _
  · split
    · exact .ok _
    · split
      · exact .ok _
      · exact failsByContent_walk _ _

theorem Registry.failsByContent_escape (registry : Registry) (value : Value) (context : Text) :
    FailsByContent (registry.escape value context) := by
  simp only [escape, escapeWith]
  split
  · next escaper _ =>
      cases escaper value [] with
      | ok text => exact .ok _
      | error error => exact .error trivial
  · exact .error trivial

theorem Tag.failsByContent_replacement (registry : Registry) (scope : Scope) (tag : Tag) :
    FailsByContent (tag.replacement registry scope) := by
  rw [replacement]
  split
  · exact .ok _
  · exact (scope.failsByContent_resolve _).bind fun found => registry.failsByContent_escape _ _

namespace Group

theorem failsByContent_header {α : Type} (group : Group) (read : Text → Except HeaderError α) :
    FailsByContent (group.header read) := by
  rw [header]
  cases read group.opener.content with
  | ok result => exact .ok _
  | error error => exact .error trivial

theorem failsByContent_items (path : Text) (found : Option Value) :
    FailsByContent (items path found) := by
  rw [items.eq_def]
  split
  · exact .error trivial
  · exact .ok _
  · exact .ok _
  · exact .error trivial

theorem failsByContent_expansion (family : Family) (group : Group) (closer : Tag) (scope : Scope) :
    FailsByContent (group.expansion family closer scope) := by
  cases family with
  | verbatim => exact .ok _
  | conditional =>
      refine (group.failsByContent_header _).bind fun condition =>
        (scope.failsByContent_resolve _).bind fun found => ?_
      cases group.body.else? with
      | none => exact .ok _
      | some separator => exact .ok _
  | loop =>
      exact (group.failsByContent_header _).bind fun iteration =>
        (scope.failsByContent_resolve _).bind fun found =>
          (failsByContent_items _ _).bind fun items => .ok _

end Group

namespace Forest

variable (registry : Registry) (source : Text)

private theorem failsByContent_evaluateBlock (group : Group) (closer : Tag) (scope : Scope)
    (smaller : ∀ part : Forest, part.weight ≤ group.body.weight → ∀ scope start stop,
      FailsByContent (part.evaluate registry source scope start stop)) :
    FailsByContent (evaluateBlock registry source group closer scope) := by
  obtain ⟨family, opener, body, closed⟩ := group
  dsimp only at smaller
  rw [evaluateBlock]
  cases family with
  | verbatim => exact .ok _
  | conditional =>
      refine (Group.failsByContent_header _ _).bind fun condition =>
        (scope.failsByContent_resolve _).bind fun found => ?_
      cases body.else? with
      | none =>
          dsimp only
          split
          · exact smaller body (Nat.le_refl _) _ _ _
          · exact .ok _
      | some separator =>
          dsimp only
          split
          · exact smaller _ (weight_beforeElse_le body) _ _ _
          · exact smaller _ (weight_afterElse_le body) _ _ _
  | loop =>
      exact (Group.failsByContent_header _ _).bind fun iteration =>
        (scope.failsByContent_resolve _).bind fun found =>
          (Group.failsByContent_items _ _).bind fun items =>
            (FailsByContent.mapM items fun item => smaller body (Nat.le_refl _) _ _ _).bind
              fun texts => .ok _

/-- An evaluation fails by content only: it reads no tags and finds no spans. -/
theorem failsByContent_evaluate : (forest : Forest) → (scope : Scope) → (start stop : Nat) →
    FailsByContent (forest.evaluate registry source scope start stop)
  | nil, _, _, _ => by
      rw [evaluate]
      exact .ok _
  | tag single rest, scope, start, stop => by
      rw [evaluate]
      exact (single.failsByContent_replacement registry scope).bind fun content =>
        (failsByContent_evaluate rest scope single.stop stop).bind fun later => .ok _
  | group _ _ body none rest, scope, start, stop => by
      rw [evaluate]
      exact failsByContent_evaluate (body ++ rest) scope start stop
  | group family opener body (some closer) rest, scope, start, stop => by
      have smaller (part : Forest) (lighter : part.weight ≤ body.weight) (scope : Scope)
          (start stop : Nat) : FailsByContent (part.evaluate registry source scope start stop) :=
        failsByContent_evaluate part scope start stop
      rw [evaluate]
      exact (failsByContent_evaluateBlock registry source ⟨family, opener, body, some closer⟩ closer
        scope smaller).bind fun content =>
          (failsByContent_evaluate rest scope closer.stop stop).bind fun later => .ok _
  termination_by forest => forest.weight
  decreasing_by all_goals simp only [weight, weight_append]; omega

end Forest

end Stencil

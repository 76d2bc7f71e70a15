import Stencil.Proofs.Forest.Rereading
import Stencil.Proofs.Render.Progress
import Stencil.Proofs.Text.Searching

/-!
# Evaluation of forests

A template can be rendered straight from its forest: the text between tags is copied, and each tag
or block gives its own text. No document is edited and no part is read again.
-/

set_option autoImplicit false

namespace Stencil

namespace Forest

/-- The number of nodes of a forest. -/
def weight : Forest → Nat
  | nil => 0
  | tag _ rest => weight rest + 1
  | group _ _ body _ rest => weight body + weight rest + 1

@[simp] theorem weight_append (left right : Forest) :
    (left ++ right).weight = left.weight + right.weight := by
  induction left with
  | nil => simp [weight]
  | tag single rest ih => simp only [tag_append, weight, ih]; omega
  | group family opener body closer rest _ restIH =>
      simp only [group_append, weight, restIH]
      omega

theorem weight_beforeElse_le (forest : Forest) : forest.beforeElse.weight ≤ forest.weight := by
  induction forest with
  | nil => exact Nat.le_refl 0
  | tag single rest ih =>
      simp only [beforeElse, weight]
      split
      · exact Nat.zero_le _
      · simp only [weight]
        omega
  | group family opener body closer rest _ restIH =>
      simp only [beforeElse, weight]
      omega

theorem weight_afterElse_le (forest : Forest) : forest.afterElse.weight ≤ forest.weight := by
  induction forest with
  | nil => exact Nat.le_refl 0
  | tag single rest ih =>
      simp only [afterElse, weight]
      split <;> omega
  | group family opener body closer rest _ restIH =>
      simp only [afterElse, weight]
      omega

mutual

/-- The text of a forest that stands between two positions of a text. The text between tags is
copied. The opening tag of an unclosed block counts as text, and what stands in the block as standing
outside of it. -/
def evaluate (registry : Registry) (source : Text) :
    Forest → Scope → (start stop : Nat) → Except RenderError Text
  | nil, _, start, stop => .ok (source.slice start stop)
  | tag single rest, scope, start, stop => do
      let content ← single.replacement registry scope
      let later ← evaluate registry source rest scope single.stop stop
      return source.slice start single.start ++ (content ++ later)
  | group _ _ body none rest, scope, start, stop =>
      evaluate registry source (body ++ rest) scope start stop
  | group family opener body (some closer) rest, scope, start, stop => do
      let content ← evaluateBlock registry source ⟨family, opener, body, some closer⟩ closer scope
      let later ← evaluate registry source rest scope closer.stop stop
      return source.slice start opener.start ++ (content ++ later)
  termination_by forest => 2 * forest.weight
  decreasing_by all_goals simp only [weight, weight_append]; omega

/-- The text of a closed block: the text between its tags as it stands, a half of the body or the
whole body under a condition, or the body once for each item. -/
def evaluateBlock (registry : Registry) (source : Text) (group : Group) (closer : Tag)
    (scope : Scope) : Except RenderError Text :=
  match group.family with
  | .verbatim => .ok (source.slice group.opener.stop closer.start)
  | .conditional => do
      let condition ← group.header Condition.read
      let holds := condition.holds (← scope.resolve condition.path)
      match group.body.else? with
      | some separator =>
          if holds then
            evaluate registry source group.body.beforeElse scope group.opener.stop separator.start
          else evaluate registry source group.body.afterElse scope separator.stop closer.start
      | none =>
          if holds then evaluate registry source group.body scope group.opener.stop closer.start
          else .ok []
  | .loop => do
      let iteration ← group.header Iteration.read
      let items ← Group.items iteration.path (← scope.resolve iteration.path)
      let texts ← items.mapM fun item =>
        evaluate registry source group.body (scope.bind iteration.name item) group.opener.stop
          closer.start
      return texts.flatten
  termination_by 2 * group.body.weight + 1
  decreasing_by
    · have := weight_beforeElse_le group.body
      omega
    · have := weight_afterElse_le group.body
      omega
    · omega
    · omega

end

end Forest

/-! ## Variables -/

/-- The path and the context of a variable tag stand before and after the first bar. Without a bar the
context is the text of a page. -/
inductive Tag.Names (tag : Tag) : (path context : Text) → Prop where
  | page (unbarred : '|' ∉ tag.path) : tag.Names tag.path "html".toList
  | context {before after : Text} (barred : tag.path = before ++ '|' :: after) (first : '|' ∉ before) :
      tag.Names before.trim after.trim

theorem Tag.pathAndContext_eq_iff {tag : Tag} {path context : Text} :
    tag.pathAndContext = (path, context) ↔ tag.Names path context := by
  constructor
  · intro same
    rw [pathAndContext] at same
    split at same
    · next before after broken =>
        obtain ⟨barred, first⟩ := Text.breakOn?_eq_some_iff.mp broken
        cases same
        exact .context barred (Text.isFirst_singleton_iff.mp first)
    · next unbroken =>
        cases same
        refine .page fun member => Text.not_isInfix_of_breakOn? unbroken ?_
        obtain ⟨before, after, whole⟩ := List.append_of_mem member
        exact ⟨before, after, by simp [whole]⟩
  · rintro (unbarred | ⟨barred, first⟩)
    · rw [pathAndContext]
      split
      · next before after broken =>
          obtain ⟨barred, -⟩ := Text.breakOn?_eq_some_iff.mp broken
          simp [barred] at unbarred
      · rfl
    · rw [pathAndContext,
        Text.breakOn?_eq_some_iff.mpr ⟨barred, Text.isFirst_singleton_iff.mpr first⟩]

/-- What is escaped for a variable: the text of a scalar, the empty text for a path that leads to nothing,
and a list, map or host object as it is. -/
def Value.written : (found : Option Value) → Value
  | none | some .null => .string []
  | some (.bool truth) => .string (if truth then "true".toList else "false".toList)
  | some (.number integer) => .string (Numeral.ofInt integer.toInt)
  | some (.float real) => .string (Numeral.ofFloat real)
  | some (.string text) => .string text
  | some (.list items) => .list items
  | some (.map entries) => .map entries
  | some (.object identity property method) => .object identity property method

/-- A variable gives the escaped value of its path in its context. -/
theorem Forest.evaluate_variable {registry : Registry} {source : Text} {tag : Tag} {path context : Text}
    (names : tag.Names path context) (notBlock : tag.isBlock = false) (rest : Forest) (scope : Scope)
    (start stop : Nat) :
    (Forest.tag tag rest).evaluate registry source scope start stop = (do
      let found ← scope.resolve path
      let content ← registry.escape (Value.written found) context
      let later ← rest.evaluate registry source scope tag.stop stop
      return source.slice start tag.start ++ (content ++ later)) := by
  have content : tag.replacement registry scope =
      (scope.resolve path >>= fun found => registry.escape (Value.written found) context) := by
    have names := Tag.pathAndContext_eq_iff.mpr names
    simp only [Tag.replacement, notBlock, Bool.false_eq_true, ↓reduceIte, Tag.substitution, names]
    refine bind_congr fun found => congrArg (registry.escape · context) ?_
    cases found with
    | none => rfl
    | some value => cases value <;> rfl
  rw [evaluate, content]
  cases scope.resolve path <;> rfl

/-! ## Evaluation of a part that has been cut out -/

/-- The same block further to the left. -/
def Group.moveBack (distance : Nat) (group : Group) : Group where
  family := group.family
  opener := group.opener.moveBack distance
  body := group.body.moveBack distance
  closer := group.closer.map (Tag.moveBack distance)

namespace Forest

variable {registry : Registry} {source : Text} {left right : Nat}

@[simp] theorem moveBack_append (distance : Nat) (first second : Forest) :
    (first ++ second).moveBack distance = first.moveBack distance ++ second.moveBack distance := by
  induction first with
  | nil => rfl
  | tag single rest ih => simp [moveBack, ih]
  | group family opener body closer rest _ restIH => simp [moveBack, restIH]

/-- Moved to the left by the start of a slice, a forest evaluates on the slice as on the whole
text. -/
def EvaluatesOnSlice (registry : Registry) (source : Text) (left right : Nat) (forest : Forest) :
    Prop :=
  ∀ scope start stop, Tag.Framed source start stop forest.flatten → left ≤ start → stop ≤ right →
    (forest.moveBack left).evaluate registry (source.slice left right) scope (start - left)
        (stop - left) =
      forest.evaluate registry source scope start stop

private theorem evaluateBlock_moveBack (leftCut : source.IsCut left) (rightCut : source.IsCut right)
    (group : Group) {closer : Tag} (scope : Scope)
    (framed : Tag.Framed source group.opener.stop closer.start group.body.flatten)
    (after : left ≤ group.opener.stop) (before : closer.start ≤ right)
    (smaller : ∀ part : Forest, part.weight ≤ group.body.weight →
      part.EvaluatesOnSlice registry source left right) :
    evaluateBlock registry (source.slice left right) (group.moveBack left) (closer.moveBack left)
        scope =
      evaluateBlock registry source group closer scope := by
  obtain ⟨family, opener, body, closed⟩ := group
  dsimp only at framed after before smaller
  rw [evaluateBlock, evaluateBlock]
  cases family with
  | verbatim =>
      have cut := Text.slice_slice leftCut rightCut framed.isCut_start framed.isCut_stop after
        framed.start_le_stop before
      exact congrArg Except.ok cut
  | conditional =>
      simp only [Group.moveBack, else?_moveBack, beforeElse_moveBack, afterElse_moveBack]
      cases separated : body.else? with
      | none =>
          have whole := smaller body (Nat.le_refl _) scope _ _ framed after before
          simp only [Option.map_none]
          rw [← whole]
          rfl
      | some separator =>
          obtain ⟨cut, -⟩ := eq_append_of_else? separated
          have halves := framed
          rw [cut, flatten_append, flatten] at halves
          obtain ⟨first, second⟩ := halves.split
          have firstHalf := smaller _ (weight_beforeElse_le body) scope _ _ first after
            (Nat.le_trans (Nat.le_trans (halves.inOrder.liesIn separator (by simp)).start_le_stop
              second.start_le_stop) before)
          have secondHalf := smaller _ (weight_afterElse_le body) scope _ _ second
            (Nat.le_trans (Nat.le_trans after first.start_le_stop)
              (halves.inOrder.liesIn separator (by simp)).start_le_stop) before
          simp only [Option.map_some]
          rw [← firstHalf, ← secondHalf]
          rfl
  | loop =>
      have whole (name : Text) (item : Value) :=
        smaller body (Nat.le_refl _) (scope.bind name item) _ _ framed after before
      simp only [← whole]
      rfl

theorem evaluatesOnSlice (leftCut : source.IsCut left) (rightCut : source.IsCut right) :
    (forest : Forest) → forest.EvaluatesOnSlice registry source left right
  | nil => by
      intro scope start stop framed after before
      rw [moveBack, evaluate, evaluate, Text.slice_slice leftCut rightCut framed.isCut_start
        framed.isCut_stop after framed.start_le_stop before]
  | tag single rest => by
      intro scope start stop framed after before
      obtain ⟨gap, later⟩ := framed.split_cons
      have wide := (framed.inOrder.liesIn single List.mem_cons_self).start_le_stop
      have reached : left ≤ single.stop :=
        Nat.le_trans after (Nat.le_trans gap.start_le_stop wide)
      have copied := Text.slice_slice leftCut rightCut gap.isCut_start gap.isCut_stop after
        gap.start_le_stop (Nat.le_trans wide (Nat.le_trans later.start_le_stop before))
      rw [moveBack, evaluate, evaluate, Tag.start_moveBack, Tag.stop_moveBack, copied,
        evaluatesOnSlice leftCut rightCut rest scope _ _ later reached before]
      rfl
  | group family opener body none rest => by
      intro scope start stop framed after before
      have inPlace : Tag.Framed source start stop (body ++ rest).flatten := by
        refine framed.sublist ?_
        rw [flatten_append]
        exact List.sublist_cons_self _ _
      rw [moveBack, Option.map_none, evaluate, evaluate, ← moveBack_append,
        evaluatesOnSlice leftCut rightCut (body ++ rest) scope _ _ inPlace after before]
  | group family opener body (some closer) rest => by
      intro scope start stop framed after before
      obtain ⟨gap, inside⟩ := framed.split_cons
      obtain ⟨bodyFramed, later⟩ := inside.split
      have opens := (framed.inOrder.liesIn opener List.mem_cons_self).start_le_stop
      have closes := (inside.inOrder.liesIn closer (by simp)).start_le_stop
      have fromOpener : left ≤ opener.stop :=
        Nat.le_trans after (Nat.le_trans gap.start_le_stop opens)
      have toCloser : closer.start ≤ right :=
        Nat.le_trans closes (Nat.le_trans later.start_le_stop before)
      have copied := Text.slice_slice leftCut rightCut gap.isCut_start gap.isCut_stop after
        gap.start_le_stop
        (Nat.le_trans opens (Nat.le_trans bodyFramed.start_le_stop toCloser))
      have smaller (part : Forest) (lighter : part.weight ≤ body.weight) :
          part.EvaluatesOnSlice registry source left right :=
        evaluatesOnSlice leftCut rightCut part
      have block := evaluateBlock_moveBack leftCut rightCut ⟨family, opener, body, some closer⟩ scope
        bodyFramed fromOpener toCloser smaller
      rw [moveBack, Option.map_some, evaluate, evaluate, Tag.start_moveBack, Tag.stop_moveBack,
        copied, ← block, evaluatesOnSlice leftCut rightCut rest scope _ _ later
          (Nat.le_trans fromOpener (Nat.le_trans bodyFramed.start_le_stop closes)) before]
      rfl
  termination_by forest => forest.weight
  decreasing_by all_goals simp only [weight, weight_append]; omega

end Forest

/-! ## Evaluation in a scope with the same values -/

/-- Two scopes give the same values to all names. -/
def Scope.Agrees (first second : Scope) : Prop := ∀ name, first.get? name = second.get? name

namespace Scope.Agrees

variable {first second : Scope}

theorem resolve (agrees : first.Agrees second) (path : Text) :
    first.resolve path = second.resolve path := by
  simp only [Scope.resolve, agrees path, agrees _]

theorem bind (agrees : first.Agrees second) (name : Text) (value : Value) :
    (first.bind name value).Agrees (second.bind name value) := by
  intro sought
  show (if sought = name then some value else first.get? sought) =
    if sought = name then some value else second.get? sought
  rw [agrees sought]

theorem replacement (agrees : first.Agrees second) (registry : Registry) (tag : Tag) :
    tag.replacement registry first = tag.replacement registry second := by
  simp only [Tag.replacement, Tag.substitution, agrees.resolve]

/-- A name that is bound has the value that it would have if the data gave it that value. -/
theorem bind_insert (data : Fields) (name : Text) (value : Value) :
    ((Scope.ofFields data).bind name value).Agrees (.ofFields (Dictionary.insert data name value)) := by
  intro sought
  exact (Dictionary.get?_insert data name sought value).symm

end Scope.Agrees

namespace Forest

variable {registry : Registry} {source : Text}

/-- In scopes with the same values a forest evaluates to the same. -/
def EvaluatesAlike (registry : Registry) (source : Text) (forest : Forest) : Prop :=
  ∀ first second : Scope, first.Agrees second → ∀ start stop,
    forest.evaluate registry source first start stop =
      forest.evaluate registry source second start stop

private theorem evaluateBlock_congr (group : Group) (closer : Tag) {first second : Scope}
    (agrees : first.Agrees second)
    (smaller : ∀ part : Forest, part.weight ≤ group.body.weight →
      part.EvaluatesAlike registry source) :
    evaluateBlock registry source group closer first =
      evaluateBlock registry source group closer second := by
  rw [evaluateBlock, evaluateBlock]
  cases group.family with
  | verbatim => rfl
  | conditional =>
      have whole := smaller group.body (Nat.le_refl _) first second agrees
      have firstHalf := smaller _ (weight_beforeElse_le group.body) first second agrees
      have secondHalf := smaller _ (weight_afterElse_le group.body) first second agrees
      simp only [agrees.resolve, whole, firstHalf, secondHalf]
  | loop =>
      have each (name : Text) (item : Value) :=
        smaller group.body (Nat.le_refl _) _ _ (agrees.bind name item)
      simp only [agrees.resolve, each]

theorem evaluatesAlike : (forest : Forest) → forest.EvaluatesAlike registry source
  | nil => by
      intro first second _ start stop
      rw [evaluate, evaluate]
  | tag single rest => by
      intro first second agrees start stop
      rw [evaluate, evaluate, agrees.replacement registry single,
        evaluatesAlike rest first second agrees]
  | group family opener body none rest => by
      intro first second agrees start stop
      rw [evaluate, evaluate, evaluatesAlike (body ++ rest) first second agrees]
  | group family opener body (some closer) rest => by
      intro first second agrees start stop
      have smaller (part : Forest) (lighter : part.weight ≤ body.weight) :
          part.EvaluatesAlike registry source :=
        evaluatesAlike part
      rw [evaluate, evaluate, evaluateBlock_congr _ closer agrees smaller,
        evaluatesAlike rest first second agrees]
  termination_by forest => forest.weight
  decreasing_by all_goals simp only [weight, weight_append]; omega

end Forest

end Stencil

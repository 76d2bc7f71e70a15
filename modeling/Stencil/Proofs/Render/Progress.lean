import Stencil.Proofs.Forest.Rereading
import Stencil.Render.Engine

/-!
# Documents during rendering

At each moment of a rendering the document consists of what has been written so far and of the rest
of the text that it started as. As long as the tags still to come lie in that rest, every span of
theirs is found, what is cut out between them is a slice of the text, and a replacement leaves a
document of the same form.
-/

set_option autoImplicit false

namespace Stencil

/-- How far a text has been worked off: what has been written, and up to which byte position the
text has been used up. -/
structure Progress where
  written : Text
  reached : Nat
  deriving DecidableEq, Repr, Inhabited

namespace Progress

/-- Nothing has been worked off. -/
def start : Progress := ⟨[], 0⟩

/-- What has been written, followed by the rest of the text. -/
def document (progress : Progress) (source : Text) : Document where
  text := progress.written ++ source.dropBytes progress.reached
  offset := progress.written.size - progress.reached

/-- Copies the text up to a span, and writes something in the place of the span. -/
def write (progress : Progress) (source : Text) (span : Span) (content : Text) : Progress where
  written := progress.written ++ (source.slice progress.reached span.start ++ content)
  reached := span.stop

theorem document_start (source : Text) : start.document source = .ofText source := by
  simp [start, document, Document.ofText]

section

variable {source : Text} {progress : Progress} {start stop : Nat}

theorem locate?_document (reached : source.IsCut progress.reached) (first : source.IsCut start)
    (second : source.IsCut stop) (before : progress.reached ≤ start) (ordered : start ≤ stop) :
    (progress.document source).locate? ⟨start, stop⟩ =
      some ⟨progress.written ++ source.slice progress.reached start, source.slice start stop,
        source.dropBytes stop⟩ := by
  refine Document.locate?_eq_some_iff.mpr ⟨?_, ?_, ?_⟩
  · dsimp only [document]
    rw [Text.dropBytes_of_isCut reached first before, Text.dropBytes_of_isCut first second ordered,
      List.append_assoc]
  · simp only [document, Text.size_append, Text.size_slice reached first before]
    omega
  · simp only [document, Text.size_append, Text.size_slice reached first before,
      Text.size_slice first second ordered]
    omega

theorem replace_document (reached : source.IsCut progress.reached) (first : source.IsCut start)
    (second : source.IsCut stop) (before : progress.reached ≤ start) (ordered : start ≤ stop)
    (content : Text) :
    (progress.document source).replace ⟨start, stop⟩ content =
      .ok ((progress.write source ⟨start, stop⟩ content).document source) := by
  simp only [Document.replace, Document.locate,
    locate?_document reached first second before ordered, Except.map, Except.ok.injEq]
  simp only [document, write, Document.mk.injEq, Text.size_append,
    Text.size_slice reached first before, Text.size_slice first second ordered]
  constructor
  · simp
  · omega

end

/-- Some tags lie one after the other in the part of a text that has not been used up. -/
def Precedes (progress : Progress) (source : Text) (tags : List Tag) : Prop :=
  Tag.Framed source progress.reached source.size tags

section

variable {source : Text} {progress : Progress} {tags : List Tag}

theorem precedes_start (order : Tag.InOrder source tags) : start.Precedes source tags :=
  order.framed

theorem Precedes.sublist {fewer : List Tag} (precedes : progress.Precedes source tags)
    (sublist : fewer.Sublist tags) : progress.Precedes source fewer :=
  Tag.Framed.sublist precedes sublist

theorem Precedes.write_tag {after : List Tag} {tag : Tag}
    (precedes : progress.Precedes source (tag :: after)) (content : Text) :
    (progress.write source tag.span content).Precedes source after :=
  (Tag.Framed.split_cons precedes).2

theorem Precedes.replace {before after : List Tag} {first last : Tag}
    (precedes : progress.Precedes source (first :: (before ++ last :: after))) (content : Text) :
    (progress.document source).replace ⟨first.start, last.stop⟩ content =
      .ok ((progress.write source ⟨first.start, last.stop⟩ content).document source) := by
  have firstLies := precedes.inOrder.liesIn first List.mem_cons_self
  have lastLies := precedes.inOrder.liesIn last (by simp)
  have ordered : first.stop ≤ last.start :=
    List.rel_of_pairwise_cons precedes.inOrder.pairwise (by simp)
  have firstWide := firstLies.start_le_stop
  have lastWide := lastLies.start_le_stop
  exact replace_document precedes.isCut_start firstLies.isCut_start lastLies.isCut_stop
    (precedes.le_start first List.mem_cons_self) (by omega) content

theorem Precedes.replace_tag {after : List Tag} {tag : Tag}
    (precedes : progress.Precedes source (tag :: after)) (content : Text) :
    (progress.document source).replace tag.span content =
      .ok ((progress.write source tag.span content).document source) := by
  have lies := precedes.inOrder.liesIn tag List.mem_cons_self
  exact replace_document precedes.isCut_start lies.isCut_start lies.isCut_stop
    (precedes.le_start tag List.mem_cons_self) lies.start_le_stop content

theorem Precedes.between {first second : Tag} (precedes : progress.Precedes source tags)
    (firstMember : first ∈ tags) (secondMember : second ∈ tags)
    (ordered : first.stop ≤ second.start) :
    (progress.document source).between first.span second.span =
      .ok (source.slice first.stop second.start) := by
  have firstLies := precedes.inOrder.liesIn first firstMember
  have secondLies := precedes.inOrder.liesIn second secondMember
  have before := precedes.le_start first firstMember
  have wide := firstLies.start_le_stop
  simp only [Document.between, Document.locate, Tag.span, locate?_document precedes.isCut_start
    firstLies.isCut_stop secondLies.isCut_start (by omega) ordered]
  rfl

end

end Progress

namespace Editing

/-- The document after an edit. -/
def after (editing : Editing Unit) (document : Document) : Except RenderError Document :=
  match editing.run document with
  | .ok _ next => .ok next
  | .error error _ => .error error

theorem after_bind (first next : Editing Unit) (document : Document) :
    (do first; next : Editing Unit).after document = first.after document >>= next.after := by
  simp only [after, EStateM.run_bind]
  cases first.run document <;> rfl

theorem ofExcept_bind {α β : Type} (first : Except RenderError α)
    (next : α → Except RenderError β) :
    ofExcept (first >>= next) = ofExcept first >>= fun value => ofExcept (next value) := by
  cases first <;> rfl

theorem after_ofExcept_bind {α : Type} (result : Except RenderError α) (next : α → Editing Unit)
    (document : Document) :
    (ofExcept result >>= next).after document =
      result >>= fun value => (next value).after document := by
  cases result <;> rfl

theorem after_between_bind (first second : Span) (next : Text → Editing Unit)
    (document : Document) :
    (between first second >>= next).after document =
      document.between first second >>= fun text => (next text).after document := by
  have step : (between first second >>= next).after document =
      (ofExcept (document.between first second) >>= next).after document := rfl
  rw [step, after_ofExcept_bind]

theorem after_replace (span : Span) (content : Text) (document : Document) :
    (replace span content).after document = document.replace span content := by
  simp only [after, run_replace]
  cases document.replace span content <;> rfl

end Editing

theorem Executor.render_eq (execute : Executor) (forest : Forest) (scope : Scope) (text : Text) :
    execute.render forest scope text =
      ((execute forest scope).after (.ofText text)).map Document.text := by
  simp only [render, Editing.after]
  cases (execute forest scope).run (.ofText text) <;> rfl

/-- What is written in the place of a tag that stands alone: nothing for a block tag, and its value
for a variable tag. -/
def Tag.replacement (registry : Registry) (scope : Scope) (tag : Tag) : Except RenderError Text :=
  if tag.isBlock then .ok [] else tag.substitution registry scope

namespace Expansion

/-- The tags between which an expansion takes its text lie in order among some tags. -/
def TakenFrom (tags : List Tag) : Expansion → Prop
  | copy first second | fragment first second | each first second _ _ =>
      first ∈ tags ∧ second ∈ tags ∧ first.stop ≤ second.start
  | nothing => True

end Expansion

theorem Forest.mem_flatten_of_else? {forest : Forest} {separator : Tag}
    (found : forest.else? = some separator) : separator ∈ forest.flatten := by
  obtain ⟨cut, -⟩ := eq_append_of_else? found
  rw [cut, flatten_append, flatten]
  simp

namespace Renderer

variable {renderer : Renderer} {source text : Text} {forest : Forest} {data : Fields}

theorem render_of_parse
    (read : Forest.parse renderer.delimiters renderer.mode renderer.maxDepth source = .ok forest) :
    renderer.render source data = renderer.renderTemplate ⟨source, forest⟩ data := by
  have parsed : renderer.parse source = .ok ⟨source, forest⟩ :=
    Template.parse_eq_ok_iff.mpr ⟨forest, read, rfl⟩
  rw [render, parsed]
  rfl

theorem render_eq_ok_iff :
    renderer.render source data = .ok text ↔
      ∃ forest, Forest.parse renderer.delimiters renderer.mode renderer.maxDepth source = .ok forest ∧
        renderer.renderTemplate ⟨source, forest⟩ data = .ok text := by
  constructor
  · intro rendered
    obtain ⟨template, parsed, rendered⟩ := bind_eq_ok_iff.mp rendered
    obtain ⟨forest, read, rfl⟩ := Template.parse_eq_ok_iff.mp (mapError_eq_ok_iff.mp parsed)
    exact ⟨forest, read, rendered⟩
  · rintro ⟨forest, read, rendered⟩
    rw [render_of_parse read, rendered]

end Renderer

namespace Group

/-- What a block stands for is taken from between its own tags. -/
theorem takenFrom_of_expansion {source : Text} {family : Family} {group : Group} {closer : Tag}
    {scope : Scope} {expansion : Expansion}
    (order : Tag.InOrder source (group.opener :: (group.body.flatten ++ [closer])))
    (expands : group.expansion family closer scope = .ok expansion) :
    expansion.TakenFrom (group.opener :: (group.body.flatten ++ [closer])) := by
  have whole : group.opener.stop ≤ closer.start :=
    List.rel_of_pairwise_cons order.pairwise (by simp)
  cases family with
  | verbatim =>
      cases expands
      exact ⟨by simp, by simp, whole⟩
  | conditional =>
      obtain ⟨condition, -, expands⟩ := bind_eq_ok_iff.mp expands
      obtain ⟨found, -, expands⟩ := bind_eq_ok_iff.mp expands
      cases separated : group.body.else? with
      | none =>
          simp only [separated] at expands
          split at expands
          · cases expands
            exact ⟨by simp, by simp, whole⟩
          · cases expands
            trivial
      | some separator =>
          have member := Forest.mem_flatten_of_else? separated
          have left : group.opener.stop ≤ separator.start :=
            List.rel_of_pairwise_cons order.pairwise (by simp [member])
          have right : separator.stop ≤ closer.start :=
            (order.sublist (List.sublist_cons_self _ _)).stop_le_start member (by simp)
          simp only [separated] at expands
          split at expands
          · cases expands
            exact ⟨by simp, by simp [member], left⟩
          · cases expands
            exact ⟨by simp [member], by simp, right⟩
  | loop =>
      obtain ⟨iteration, -, expands⟩ := bind_eq_ok_iff.mp expands
      obtain ⟨found, -, expands⟩ := bind_eq_ok_iff.mp expands
      obtain ⟨items, -, expands⟩ := bind_eq_ok_iff.mp expands
      cases expands
      exact ⟨by simp, by simp, whole⟩

end Group

namespace Renderer

variable {renderer : Renderer} {deeper : Option Executor} {scope : Scope} {source : Text}
  {progress : Progress}

/-- What is done one level deeper than with a number of levels left. -/
def deeperWithin (renderer : Renderer) : (levels : Nat) → Option Executor
  | 0 => none
  | levels + 1 => some (renderer.executeWithin levels)

theorem executeWithin_eq_walk (levels : Nat) :
    renderer.executeWithin levels = renderer.walk (renderer.deeperWithin levels) := by
  cases levels <;> rfl

/-- The text that an expansion stands for, taken from the text of the tags. -/
def expansionText (renderer : Renderer) (deeper : Option Executor) (source : Text) (scope : Scope) :
    Expansion → Except RenderError Text
  | .copy first second => .ok (source.slice first.stop second.start)
  | .fragment first second =>
      renderer.renderFragment deeper (source.slice first.stop second.start) scope
  | .each first second name items =>
      renderer.renderEach deeper (source.slice first.stop second.start) name items scope
  | .nothing => .ok []

/-- What is written in the place of a closed block, with no document. -/
def blockText (renderer : Renderer) (deeper : Option Executor) (source : Text) (group : Group)
    (closer : Tag) (scope : Scope) : Except RenderError Text :=
  group.expansion group.family closer scope >>= renderer.expansionText deeper source scope

theorem walk_tag (tag : Tag) (rest : Forest) :
    renderer.walk deeper (.tag tag rest) scope =
      (Editing.ofExcept (tag.replacement renderer.registry scope) >>= fun content =>
        do Editing.replace tag.span content; renderer.walk deeper rest scope) := by
  by_cases block : tag.isBlock = true
  · rw [walk, if_pos block, Tag.replacement, if_pos block]
    rfl
  · rw [walk, if_neg block, Tag.replacement, if_neg block]

theorem after_walk_tag (tag : Tag) (rest : Forest) (document : Document) :
    (renderer.walk deeper (.tag tag rest) scope).after document =
      tag.replacement renderer.registry scope >>= fun content =>
        document.replace tag.span content >>= (renderer.walk deeper rest scope).after := by
  rw [walk_tag, Editing.after_ofExcept_bind]
  simp only [Editing.after_bind, Editing.after_replace]

theorem after_walk_open (execute : Executor) (family : Family) (opener : Tag) (body rest : Forest)
    (document : Document) :
    (renderer.walk (some execute) (.group family opener body none rest) scope).after document =
      (execute body scope).after document >>=
        (renderer.walk (some execute) rest scope).after :=
  Editing.after_bind (execute body scope) _ document

theorem after_walk_closed (family : Family) (opener closer : Tag) (body rest : Forest)
    (document : Document) :
    (renderer.walk deeper (.group family opener body (some closer) rest) scope).after document =
      (renderer.expandBlock deeper family ⟨family, opener, body, some closer⟩ scope).after
          document >>=
        (renderer.walk deeper rest scope).after :=
  Editing.after_bind _ _ document

/-- A closed block on a document in between: its text is written in its place. -/
theorem after_expandBlock {family : Family} {opener closer : Tag} {body : Forest} {later : List Tag}
    (precedes : progress.Precedes source (opener :: (body.flatten ++ closer :: later))) :
    (renderer.expandBlock deeper family ⟨family, opener, body, some closer⟩ scope).after
        (progress.document source) =
      (renderer.blockText deeper source ⟨family, opener, body, some closer⟩ closer scope).map
        fun content =>
          (progress.write source ⟨opener.start, closer.stop⟩ content).document source := by
  have own : (opener :: (body.flatten ++ [closer])).Sublist
      (opener :: (body.flatten ++ closer :: later)) := by
    simp
  have replaced := precedes.replace
  simp only [expandBlock, blockText, Editing.after_ofExcept_bind]
  cases expands : Group.expansion family ⟨family, opener, body, some closer⟩ closer scope with
  | error error => rfl
  | ok expansion =>
      have taken := Group.takenFrom_of_expansion (precedes.sublist own).inOrder expands
      cases expansion with
      | copy first second =>
          have cut := (precedes.sublist own).between taken.1 taken.2.1 taken.2.2
          simp only [ok_bind, Editing.after_between_bind, Editing.after_replace, cut, replaced,
            expansionText, Except.map]
      | fragment first second =>
          have cut := (precedes.sublist own).between taken.1 taken.2.1 taken.2.2
          simp only [ok_bind, Editing.after_between_bind, Editing.after_ofExcept_bind,
            Editing.after_replace, cut, replaced, expansionText]
          rfl
      | each first second name items =>
          have cut := (precedes.sublist own).between taken.1 taken.2.1 taken.2.2
          simp only [ok_bind, Editing.after_between_bind, Editing.after_ofExcept_bind,
            Editing.after_replace, cut, replaced, expansionText]
          rfl
      | nothing => simp only [ok_bind, Editing.after_replace, replaced, expansionText, Except.map]

end Renderer

end Stencil

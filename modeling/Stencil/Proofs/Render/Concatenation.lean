import Mathlib.Control.Monad.Basic
import Stencil.Proofs.Forest.Joining
import Stencil.Proofs.Render.Advance

/-!
# Concatenation of templates

What a block stands for does not depend on what stands outside of it, so a forest makes the same of a
text wherever that text stands. Two texts with nothing reaching across their seam render one after the
other.
-/

set_option autoImplicit false

namespace Stencil

namespace Group

def shift (distance : Nat) (group : Group) : Group where
  family := group.family
  opener := group.opener.shift distance
  body := group.body.shift distance
  closer := group.closer.map (Tag.shift distance)

end Group

namespace Expansion

def shift (distance : Nat) : Expansion → Expansion
  | copy first second => copy (first.shift distance) (second.shift distance)
  | fragment first second => fragment (first.shift distance) (second.shift distance)
  | each first second name items =>
      each (first.shift distance) (second.shift distance) name items
  | nothing => nothing

end Expansion

theorem Group.expansion_shift (distance : Nat) (family : Family) (group : Group) (closer : Tag)
    (scope : Scope) :
    (group.shift distance).expansion family (closer.shift distance) scope =
      (group.expansion family closer scope).map (Expansion.shift distance) := by
  have sameHeader {α : Type} (read : Text → Except HeaderError α) :
      (group.shift distance).header read = group.header read := rfl
  cases family with
  | verbatim => rfl
  | conditional =>
      have separated : (group.shift distance).body.else? =
          group.body.else?.map (Tag.shift distance) := Forest.else?_shift
      simp only [expansion, sameHeader, separated]
      cases group.header Condition.read with
      | error error => rfl
      | ok condition =>
          rw [ok_bind, ok_bind]
          cases scope.resolve condition.path with
          | error error => rfl
          | ok found =>
              rw [ok_bind, ok_bind]
              cases group.body.else? with
              | none => cases condition.holds found <;> rfl
              | some separator => cases condition.holds found <;> rfl
  | loop =>
      simp only [expansion, sameHeader]
      cases group.header Iteration.read with
      | error error => rfl
      | ok iteration =>
          rw [ok_bind, ok_bind]
          cases scope.resolve iteration.path with
          | error error => rfl
          | ok found =>
              rw [ok_bind, ok_bind]
              cases items iteration.path found <;> rfl

namespace Renderer

variable {renderer : Renderer} {left middle right : Text} {deeper : Option Executor}
  {scope : Scope}

private theorem slice_shift {tags : List Tag} (order : Tag.InOrder middle tags) {first second : Tag}
    (firstMember : first ∈ tags) (secondMember : second ∈ tags)
    (ordered : first.stop ≤ second.start) :
    (left ++ (middle ++ right)).slice (first.shift left.size).stop (second.shift left.size).start =
      middle.slice first.stop second.start := by
  have starts := (order.liesIn first firstMember).isCut_stop
  have stops := (order.liesIn second secondMember).isCut_start
  rw [← Text.slice_of_middle left right starts stops ordered, Nat.add_comm left.size,
    Nat.add_comm left.size]
  rfl

variable (left right)

theorem expansionText_shift {tags : List Tag} (order : Tag.InOrder middle tags)
    {expansion : Expansion} (taken : expansion.TakenFrom tags) :
    renderer.expansionText deeper (left ++ (middle ++ right)) scope (expansion.shift left.size) =
      renderer.expansionText deeper middle scope expansion := by
  cases expansion with
  | copy first second =>
      simp only [Expansion.shift, expansionText, slice_shift order taken.1 taken.2.1 taken.2.2]
  | fragment first second =>
      simp only [Expansion.shift, expansionText, slice_shift order taken.1 taken.2.1 taken.2.2]
  | each first second name items =>
      simp only [Expansion.shift, expansionText, slice_shift order taken.1 taken.2.1 taken.2.2]
  | nothing => rfl

theorem blockText_shift (group : Group) {closer : Tag}
    (order : Tag.InOrder middle (group.opener :: (group.body.flatten ++ [closer]))) :
    renderer.blockText deeper (left ++ (middle ++ right)) (group.shift left.size)
        (closer.shift left.size) scope =
      renderer.blockText deeper middle group closer scope := by
  have family : (group.shift left.size).family = group.family := rfl
  rw [blockText, blockText, family, Group.expansion_shift]
  cases expands : group.expansion group.family closer scope with
  | error error => rfl
  | ok expansion =>
      exact expansionText_shift left right order (Group.takenFrom_of_expansion order expands)

end Renderer

namespace Progress

/-- The same progress after another text has been put before what is worked off. -/
def shift (written : Text) (distance : Nat) (progress : Progress) : Progress where
  written := written ++ progress.written
  reached := progress.reached + distance

variable {left middle right written : Text} {progress : Progress}

variable (left right written) in
theorem write_shift {span : Span} (reached : middle.IsCut progress.reached)
    (starts : middle.IsCut span.start) (before : progress.reached ≤ span.start) (content : Text) :
    (progress.shift written left.size).write (left ++ (middle ++ right))
        ⟨span.start + left.size, span.stop + left.size⟩ content =
      (progress.write middle span content).shift written left.size := by
  have copied := Text.slice_of_middle left right reached starts before
  rw [Nat.add_comm left.size, Nat.add_comm left.size] at copied
  simp only [write, shift, copied, List.append_assoc]

@[simp] theorem shift_nil_zero : progress.shift [] 0 = progress := rfl

/-- Whatever has been worked off of the first of two texts, the tags of the second one come later. -/
theorem precedes_map_shift {tags : List Tag}
    (order : Tag.InOrder (left ++ right) (tags.map (Tag.shift left.size)))
    (reached : left.IsCut progress.reached) :
    progress.Precedes (left ++ right) (tags.map (Tag.shift left.size)) := by
  have whole := reached.append right
  constructor
  · exact whole
  · exact Text.isCut_size _
  · exact whole.le_size
  · exact order
  · intro tag member
    obtain ⟨original, -, rfl⟩ := List.mem_map.mp member
    exact Nat.le_trans reached.le_size (Nat.le_add_left _ _)
  · intro tag member
    exact (order.liesIn tag member).isCut_stop.le_size

theorem document_flush (reached : left.IsCut progress.reached) :
    progress.document (left ++ right) =
      (start.shift (progress.document left).text left.size).document (left ++ right) := by
  obtain ⟨before, after, rfl, same⟩ := reached
  simp only [document, shift, start, Document.mk.injEq, ← same, Text.dropBytes_size_append,
    List.append_assoc, Nat.zero_add, List.append_nil]
  constructor
  · rw [← List.append_assoc before after right, Text.dropBytes_size_append]
  · simp only [Text.size_append]
    omega

theorem text_document_shift :
    ((progress.shift written left.size).document (left ++ middle)).text =
      written ++ (progress.document middle).text := by
  simp only [document, shift, Nat.add_comm progress.reached, Text.dropBytes_size_add,
    List.append_assoc]

end Progress

namespace Forest

variable (renderer : Renderer) (scope : Scope) (left right written : Text) {middle : Text}

/-- What a forest makes of a text does not depend on the texts around. -/
theorem advance_shift {forest : Forest} (nested : forest.WellNested none) {progress : Progress}
    (precedes : progress.Precedes middle forest.flatten) (levels : Nat) :
    (forest.shift left.size).advance renderer (left ++ (middle ++ right)) levels scope
        (progress.shift written left.size) =
      (forest.advance renderer middle levels scope progress).map
        (Progress.shift written left.size) := by
  induction forest generalizing levels progress with
  | nil => rfl
  | tag single rest ih =>
      have lies := precedes.inOrder.liesIn single List.mem_cons_self
      have replaced : (single.shift left.size).replacement renderer.registry scope =
          single.replacement renderer.registry scope := rfl
      rw [shift, advance, advance, replaced]
      cases single.replacement renderer.registry scope with
      | error error => rfl
      | ok content =>
          have before : progress.reached ≤ single.span.start :=
            precedes.le_start single List.mem_cons_self
          have moved := Progress.write_shift left right written precedes.isCut_start
            lies.isCut_start before content
          rw [ok_bind, ok_bind, ← ih nested.2.2 (precedes.write_tag content) levels]
          exact congrArg _ moved
  | group family opener body closer rest bodyIH restIH =>
      obtain ⟨-, inside, -, last, after⟩ := nested
      cases closer with
      | none =>
          obtain rfl := last rfl
          cases levels with
          | zero => rfl
          | succ levels =>
              rw [shift, Option.map_none, advance, advance,
                bodyIH inside.outside precedes.of_open levels]
              cases body.advance renderer middle levels scope progress <;> rfl
      | some closing =>
          have lies := precedes.inOrder.liesIn opener List.mem_cons_self
          have own : (opener :: (body.flatten ++ [closing])).Sublist
              (Forest.group family opener body (some closing) rest).flatten := by
            simp [flatten]
          have block : renderer.blockText (renderer.deeperWithin levels)
              (left ++ (middle ++ right)) ⟨family, opener.shift left.size, body.shift left.size,
                some (closing.shift left.size)⟩ (closing.shift left.size) scope =
              renderer.blockText (renderer.deeperWithin levels) middle
                ⟨family, opener, body, some closing⟩ closing scope :=
            Renderer.blockText_shift left right ⟨family, opener, body, some closing⟩
              (precedes.inOrder.sublist own)
          rw [shift, Option.map_some, advance, advance, block]
          cases renderer.blockText (renderer.deeperWithin levels) middle
            ⟨family, opener, body, some closing⟩ closing scope with
          | error error => rfl
          | ok content =>
              have before : progress.reached ≤ (⟨opener.start, closing.stop⟩ : Span).start :=
                precedes.le_start opener List.mem_cons_self
              have moved := Progress.write_shift left right written precedes.isCut_start
                lies.isCut_start before content
              rw [ok_bind, ok_bind, ← restIH after (precedes.of_closed content) levels]
              exact congrArg _ moved

/-- Of two texts, a forest of the first one makes what it makes of the first one alone. -/
theorem advance_left {forest : Forest} (nested : forest.WellNested none)
    (order : Tag.InOrder left forest.flatten) (levels : Nat) :
    forest.advance renderer (left ++ right) levels scope .start =
      forest.advance renderer left levels scope .start := by
  have unmoved := advance_shift renderer scope [] right [] nested (Progress.precedes_start order)
    levels
  simp only [Text.size_nil, shift_zero, List.nil_append, Progress.shift_nil_zero] at unmoved
  rw [unmoved]
  cases forest.advance renderer left levels scope .start <;> rfl

end Forest

namespace Renderer

variable {renderer : Renderer} {left right : Text} {first second : Forest}

/-- Working off the second of two texts after the first one. -/
private theorem advance_second (nested : (second.shift left.size).WellNested none)
    (order : Tag.InOrder (left ++ right) (second.shift left.size).flatten)
    (secondOrder : Tag.InOrder right second.flatten) {progress : Progress}
    (reached : left.IsCut progress.reached) (levels : Nat) (scope : Scope) :
    ((second.shift left.size).advance renderer (left ++ right) levels scope progress).map
        (fun later => (later.document (left ++ right)).text) =
      (second.advance renderer right levels scope .start).map fun later =>
        (progress.document left).text ++ (later.document right).text := by
  rw [Forest.flatten_shift] at order
  have unflushed : progress.Precedes (left ++ right) (second.shift left.size).flatten :=
    Forest.flatten_shift ▸ Progress.precedes_map_shift order reached
  have start : left.IsCut (Progress.start.shift (progress.document left).text left.size).reached := by
    rw [Progress.shift, Progress.start, Nat.zero_add]
    exact left.isCut_size
  have flushed : (Progress.start.shift (progress.document left).text left.size).Precedes
      (left ++ right) (second.shift left.size).flatten :=
    Forest.flatten_shift ▸ Progress.precedes_map_shift order start
  have moved := Forest.advance_shift renderer scope left [] (progress.document left).text
    (Forest.wellNested_shift.mp nested) (Progress.precedes_start secondOrder) levels
  rw [List.append_nil] at moved
  -- What is left of the first text may as well be copied before the second text is worked off.
  have documents : ((second.shift left.size).advance renderer (left ++ right) levels scope
        progress).map (·.document (left ++ right)) =
      (second.advance renderer right levels scope .start).map fun later =>
        (later.shift (progress.document left).text left.size).document (left ++ right) := by
    rw [← renderer.after_executeWithin nested unflushed, Progress.document_flush reached,
      renderer.after_executeWithin nested flushed, moved, map_map]
  have texts := congrArg (Except.map Document.text) documents
  rw [map_map, map_map] at texts
  rw [texts]
  simp only [Progress.text_document_shift]

/-- Where two texts are read apart from each other, they render as the one after the other. -/
theorem renderTemplate_append {delimiters : Delimiters} {mode : Mode} {limit : Nat}
    (joined : Forest.parse delimiters mode limit (left ++ right) =
      .ok (first ++ second.shift left.size))
    (readFirst : Forest.parse delimiters mode limit left = .ok first)
    (readSecond : Forest.parse delimiters mode limit right = .ok second) (data : Fields) :
    renderer.renderTemplate ⟨left ++ right, first ++ second.shift left.size⟩ data =
      (do
        let beginning ← renderer.renderTemplate ⟨left, first⟩ data
        let ending ← renderer.renderTemplate ⟨right, second⟩ data
        return beginning ++ ending) := by
  obtain ⟨nested, -, -⟩ := Forest.of_ofTags (Forest.ofTags_of_parse joined)
  obtain ⟨firstNested, movedNested⟩ := nested.of_append
  have order := Forest.inOrder_of_parse joined
  have firstOrder := Forest.inOrder_of_parse readFirst
  have secondOrder := Forest.inOrder_of_parse readSecond
  have movedOrder : Tag.InOrder (left ++ right) (second.shift left.size).flatten := by
    refine order.sublist ?_
    rw [Forest.flatten_append]
    exact List.sublist_append_right _ _
  rw [renderTemplate_eq_advance renderer nested order, Forest.advance_append,
    Forest.advance_left renderer (.ofFields data) left right firstNested firstOrder,
    renderTemplate_eq_advance renderer firstNested firstOrder,
    renderTemplate_eq_advance renderer (Forest.wellNested_shift.mp movedNested) secondOrder]
  cases advances : first.advance renderer left renderer.maxDepth (.ofFields data) .start with
  | error error => rfl
  | ok progress =>
      have cut := Forest.isCut_of_advance firstNested (Progress.precedes_start firstOrder) advances
      have ending : ((second.shift left.size).advance renderer (left ++ right) renderer.maxDepth
          (.ofFields data) progress).map (fun later => (later.document (left ++ right)).text) = _ :=
        advance_second movedNested movedOrder secondOrder cut renderer.maxDepth (.ofFields data)
      rw [ok_bind, ending]
      cases second.advance renderer right renderer.maxDepth (.ofFields data) .start <;> rfl

/-- Where nothing is left open in the first of two texts, and no delimiter can reach across the seam,
both together render exactly if each of them does, and render as the one after the other. -/
theorem render_append {enough : Nat}
    (terminated : (Pairing.ofText renderer.delimiters left).unterminated = [])
    (made : Forest.ofTags enough (Pairing.ofText renderer.delimiters left).tags = .ok first)
    (closed : first.Closed)
    (outside : (∀ last, left.getLast? = some last → last ∉ renderer.delimiters.characters) ∨
      ∀ head, right.head? = some head → head ∉ renderer.delimiters.characters)
    (data : Fields) (text : Text) :
    renderer.render (left ++ right) data = .ok text ↔
      ∃ beginning ending, renderer.render left data = .ok beginning ∧
        renderer.render right data = .ok ending ∧ text = beginning ++ ending := by
  have seam := CleanSeam.of_notMem terminated outside
  simp only [render_eq_ok_iff]
  constructor
  · rintro ⟨whole, joined, rendered⟩
    obtain ⟨read, second, readSecond, rfl⟩ :=
      (Forest.parse_append_eq_ok_iff seam made closed).mp joined
    rw [renderTemplate_append joined read readSecond] at rendered
    obtain ⟨beginning, renderedFirst, rendered⟩ := bind_eq_ok_iff.mp rendered
    obtain ⟨ending, renderedSecond, same⟩ := bind_eq_ok_iff.mp rendered
    cases same
    exact ⟨beginning, ending, ⟨first, read, renderedFirst⟩, ⟨second, readSecond, renderedSecond⟩, rfl⟩
  · rintro ⟨beginning, ending, ⟨other, read, renderedFirst⟩,
      ⟨second, readSecond, renderedSecond⟩, rfl⟩
    obtain ⟨nested, -, flat⟩ := Forest.of_ofTags made
    obtain ⟨otherNested, -, otherFlat⟩ := Forest.of_ofTags (Forest.ofTags_of_parse read)
    obtain rfl : other = first := otherNested.eq_of_flatten_eq nested (otherFlat.trans flat.symm)
    have joined := (Forest.parse_append_eq_ok_iff seam made closed).mpr
      ⟨read, second, readSecond, rfl⟩
    refine ⟨_, joined, ?_⟩
    rw [renderTemplate_append joined read readSecond, renderedFirst, renderedSecond]
    rfl

/-- A conditional block, a blank, and a variable before a delimiter that is never closed. -/
theorem render_append_conditional :
    let left : Text := "é{% if x %}<{% endif %} ".toList
    let right : Text := "{{ x }}\x7b%".toList
    let data : Fields := [("x".toList, .string "<".toList)]
    (Pairing.ofText Delimiters.standard left).unterminated = [] ∧
      (∃ first, Forest.ofTags 1 (Pairing.ofText Delimiters.standard left).tags = .ok first ∧
        first.Closed) ∧
      (∀ last, left.getLast? = some last → last ∉ Delimiters.standard.characters) ∧
      standard.render (left ++ right) data = .ok "é< &lt;\x7b%".toList := by
  intro left right data
  have terminated : (Pairing.ofText Delimiters.standard left).unterminated = [] := by
    decide +kernel
  have outside (last : Char) (ends : left.getLast? = some last) :
      last ∉ Delimiters.standard.characters := by
    obtain rfl : ' ' = last := Option.some.inj ends
    decide
  obtain ⟨first, made, closed⟩ : ∃ first, Forest.ofTags 1
      (Pairing.ofText Delimiters.standard left).tags = .ok first ∧ first.Closed :=
    ⟨_, rfl, by decide +kernel⟩
  refine ⟨terminated, ⟨first, made, closed⟩, outside, ?_⟩
  refine (render_append terminated made closed (.inl outside) data _).mpr
    ⟨"é< ".toList, "&lt;\x7b%".toList, ?_, ?_, rfl⟩
  · decide +kernel
  · decide +kernel

end Renderer

end Stencil

import Mathlib.Data.List.Forall2
import Stencil.Proofs.Header.Printing
import Stencil.Proofs.Render.Enclosing

/-!
# Unrolling of loops

A loop around a text renders to what that text renders to for each item in turn, as a template of its
own, with the item among the data under the name of the loop.
-/

set_option autoImplicit false

namespace Stencil

theorem mapM_eq_ok_iff {ε α β : Type} {function : α → Except ε β} {items : List α}
    {results : List β} :
    items.mapM function = .ok results ↔
      List.Forall₂ (fun item result => function item = .ok result) items results := by
  induction items generalizing results with
  | nil =>
      rw [List.mapM_nil, List.forall₂_nil_left_iff]
      exact ⟨fun same => (Except.ok.inj same).symm, fun same => congrArg Except.ok same.symm⟩
  | cons item items ih =>
      rw [List.mapM_cons, List.forall₂_cons_left_iff]
      constructor
      · intro made
        obtain ⟨first, here, made⟩ := bind_eq_ok_iff.mp made
        obtain ⟨rest, later, same⟩ := bind_eq_ok_iff.mp made
        cases same
        exact ⟨first, rest, here, ih.mp later, rfl⟩
      · rintro ⟨first, rest, here, later, rfl⟩
        rw [here, ok_bind, ih.mpr later]
        rfl

/-! ## The text of a loop and its tags -/

/-- A loop over a path, with a name for its items. -/
def loopText (name path body : Text) : Text :=
  "\x7b% for ".toList ++ name ++ " in ".toList ++ path ++ " %\x7d".toList ++ body ++
    "{% endfor %}".toList

/-- The content of the tag that opens a loop, in parts. -/
def loopParts (name path : Text) : Iteration.Parts := ⟨[' '], [' '], name, [' '], [' '], path, [' ']⟩

/-- The text up to the body of a loop. -/
def loopHead (name path : Text) : Text := (loopParts name path).text.inBlockTag

def loopOpener (name path : Text) : Tag := .ofContent (loopParts name path).text

def endLoop : Text := " endfor ".toList

def loopCloser (name path body : Text) : Tag :=
  ((Tag.ofContent endLoop).shift body.size).shift (loopHead name path).size

def loopForest (name path body : Text) (forest : Forest) : Forest :=
  .group .loop (loopOpener name path) (forest.shift (loopHead name path).size)
    (some (loopCloser name path body)) .nil

section

variable (name path body : Text)

theorem loopText_eq :
    loopText name path body = enclosedText (loopParts name path).text body endLoop := by
  have keyword : "\x7b% for ".toList = "\x7b%".toList ++ ([' '] ++ ("for".toList ++ [' '])) := by
    decide
  have connective : " in ".toList = [' '] ++ ("in".toList ++ [' ']) := by decide
  have close : " %\x7d".toList = [' '] ++ "%\x7d".toList := by decide
  have last : "{% endfor %}".toList = "\x7b%".toList ++ (endLoop ++ "%\x7d".toList) := by decide
  unfold loopText
  rw [keyword, connective, close, last]
  dsimp only [enclosedText, loopParts, Iteration.Parts.text, Text.inBlockTag]
  simp only [List.append_assoc]

theorem loopForest_eq (forest : Forest) : loopForest name path body forest =
    enclosedForest .loop (loopParts name path).text body endLoop forest := rfl

theorem opens?_loopOpener : (loopOpener name path).opens? = some .loop := rfl

theorem closes?_endLoop : (Tag.ofContent endLoop).closes? = some .loop := by decide

theorem stop_loopOpener : (loopOpener name path).stop = (loopHead name path).size :=
  stop_ofContent _

theorem start_loopCloser :
    (loopCloser name path body).start = (loopHead name path).size + body.size :=
  start_enclosedCloser _ body endLoop

theorem slice_loopBody :
    (loopText name path body).slice (loopOpener name path).stop (loopCloser name path body).start =
      body := by
  rw [loopText_eq]
  exact slice_enclosedText _ body endLoop

end

/-! ## Reading a loop -/

/-- What a name and a path have to be made of for a loop over them to be read. -/
structure LoopNames (name path : Text) : Prop where
  name_ne_nil : name ≠ []
  name : ∀ character ∈ name, Header.isNameCharacter character = true
  path_ne_nil : path ≠ []
  path : ∀ character ∈ path, Header.isPathCharacter character = true ∧
    character ∉ Delimiters.standard.characters

namespace LoopNames

variable {name path : Text}

theorem read_header (names : LoopNames name path) :
    Iteration.read (loopOpener name path).content = .ok ⟨name, path⟩ := by
  have separator : [' '] ≠ [] ∧ Header.IsGap [' '] := ⟨by decide, forall_mem_of_all (by decide)⟩
  have blank : ∀ character ∈ [' '], isBlank character = true := forall_mem_of_all (by decide)
  have wellFormed : (loopParts name path).WellFormed := {
    beforeKeyword := separator.2
    afterKeyword := separator
    name_ne_nil := names.name_ne_nil
    name := names.name
    afterName := separator
    afterIn := separator
    path_ne_nil := names.path_ne_nil
    path := fun character member => (names.path character member).1
    afterPath := blank }
  exact wellFormed.read_text

theorem plainContent (names : LoopNames name path) : PlainContent (loopParts name path).text := by
  refine ⟨fun empty => ?_, fun character member delimits => ?_⟩
  · have blank : [' '] = [] := (List.append_eq_nil_iff.mp empty).1
    cases blank
  · have notName : ∀ mark ∈ Delimiters.standard.characters, Header.isNameCharacter mark = false :=
      forall_mem_of_all (by decide +kernel)
    have written : ∀ mark ∈ Delimiters.standard.characters,
        mark ∉ [' '] ∧ mark ∉ "for".toList ∧ mark ∉ "in".toList :=
      forall_mem_of_all (by decide)
    obtain ⟨blank, keyword, connective⟩ := written character delimits
    simp only [loopParts, Iteration.Parts.text, List.mem_append, blank, keyword, connective,
      false_or, or_false] at member
    rcases member with inName | inPath
    · have outside := notName character delimits
      rw [names.name character inName] at outside
      cases outside
    · exact (names.path character inPath).2 delimits

end LoopNames

/-- A text that can stand in a loop: nothing of it reaches out of the loop, or closes it. -/
structure LoopBody (body : Text) (forest : Forest) : Prop where
  last : body.getLast? ≠ some '{'
  terminated : (Pairing.ofText .standard body).unterminated = []
  made : ∃ enough, Forest.ofTags enough (Pairing.ofText .standard body).tags = .ok forest
  closed : forest.Closed
  stays : ∀ single ∈ forest.singles, single.closes? ≠ some .loop

namespace LoopBody

variable {name path body : Text} {forest : Forest} {limit : Nat}

theorem tags_loopText (standing : LoopBody body forest) (names : LoopNames name path) :
    (Pairing.ofText .standard (loopText name path body)).tags =
      loopOpener name path ::
        ((Pairing.ofText .standard body).tags.map (Tag.shift (loopHead name path).size) ++
          [loopCloser name path body]) := by
  have ending : PlainContent endLoop := ⟨by decide, forall_mem_of_all (by decide)⟩
  rw [loopText_eq]
  exact tags_enclosedText names.plainContent ending standing.last standing.terminated

/-- A loop is read as a single group around the tags of its body. -/
theorem parse_loopText (standing : LoopBody body forest) (names : LoopNames name path)
    (bound : forest.height + 1 ≤ limit) :
    Forest.parse .standard .lenient limit (loopText name path body) =
      .ok (loopForest name path body forest) := by
  obtain ⟨enough, made⟩ := standing.made
  obtain ⟨nested, -, flat⟩ := Forest.of_ofTags made
  rw [Forest.parse_lenient_eq_ok_iff, standing.tags_loopText names, Forest.ofTags_eq_ok_iff,
    loopForest_eq, height_enclosedForest, flatten_enclosedForest, flat]
  exact ⟨wellNested_enclosedForest (opens?_loopOpener name path) closes?_endLoop nested
    standing.closed standing.stays, bound, rfl⟩

theorem parse_body (standing : LoopBody body forest) (bound : forest.height ≤ limit) :
    Forest.parse .standard .lenient limit body = .ok forest := by
  obtain ⟨enough, made⟩ := standing.made
  obtain ⟨nested, -, flat⟩ := Forest.of_ofTags made
  exact Forest.parse_lenient_eq_ok_iff.mpr (Forest.ofTags_eq_ok_iff.mpr ⟨nested, bound, flat⟩)

end LoopBody

/-! ## Evaluating a loop -/

section

variable {name path body : Text} {forest : Forest}

/-- Inside of a loop a body evaluates as it does alone. -/
theorem evaluate_loopBody (registry : Registry) (scope : Scope)
    (order : Tag.InOrder (loopText name path body) (loopForest name path body forest).flatten) :
    (forest.shift (loopHead name path).size).evaluate registry (loopText name path body) scope
        (loopOpener name path).stop (loopCloser name path body).start =
      forest.evaluate registry body scope 0 body.size := by
  have framed := order.framed.split_cons.2.split.1
  have cut := slice_loopBody name path body
  rw [← Forest.evaluatesOnSlice framed.isCut_start framed.isCut_stop (forest.shift _) scope _ _ framed
    (Nat.le_refl _) (Nat.le_refl _), cut, stop_loopOpener, start_loopCloser, Forest.moveBack_shift,
    Nat.sub_self, Nat.add_sub_cancel_left]

/-- A loop evaluates to what its body evaluates to for each item in turn. -/
theorem evaluate_loopForest (registry : Registry) {scope : Scope} (names : LoopNames name path)
    (order : Tag.InOrder (loopText name path body) (loopForest name path body forest).flatten)
    {found : Option Value} {items : List Value} (leads : scope.resolve path = .ok found)
    (holds : Group.items path found = .ok items) :
    (loopForest name path body forest).evaluate registry (loopText name path body) scope 0
        (Text.size (loopText name path body)) =
      (items.mapM fun item => forest.evaluate registry body (scope.bind name item) 0 body.size).map
        List.flatten := by
  have header : Group.header ⟨.loop, loopOpener name path, forest.shift (loopHead name path).size,
      some (loopCloser name path body)⟩ Iteration.read = .ok ⟨name, path⟩ :=
    mapError_eq_ok_iff.mpr names.read_header
  have block : (loopForest name path body forest).evaluate registry (loopText name path body) scope 0
      (Text.size (loopText name path body)) =
        Forest.evaluateBlock registry (loopText name path body)
          ⟨.loop, loopOpener name path, forest.shift (loopHead name path).size,
            some (loopCloser name path body)⟩ (loopCloser name path body) scope := by
    rw [loopText_eq]
    exact evaluate_enclosedForest registry scope
  rw [block, Forest.evaluateBlock]
  simp only [header, ok_bind, leads, holds, evaluate_loopBody registry _ order]
  cases items.mapM fun item => forest.evaluate registry body (scope.bind name item) 0 body.size with
  | error error => rfl
  | ok texts => rfl

end

namespace Renderer

variable {renderer : Renderer} {name path body : Text} {forest : Forest} {data : Fields}
  {collection : Value} {items : List Value}

/-- A loop renders exactly if its body renders for each item, as a text of its own and with the item
among the data. Its text is that of the items in order. The items of a map are in the order of its entries,
which are sorted by name. -/
theorem render_loopText (delimiters : renderer.delimiters = .standard)
    (mode : renderer.mode = .lenient) (names : LoopNames name path) (standing : LoopBody body forest)
    (bound : forest.height + 1 ≤ renderer.maxDepth)
    (leads : (Scope.ofFields data).resolve path = .ok (some collection))
    (holds : collection = .list items ∨
      ∃ entries, collection = .map entries ∧ items = entries.map Prod.snd) (text : Text) :
    renderer.render (loopText name path body) data = .ok text ↔
      ∃ texts, List.Forall₂
          (fun item text => renderer.render body (Dictionary.insert data name item) = .ok text)
          items texts ∧
        text = texts.flatten := by
  have separable : renderer.delimiters.Separable := delimiters ▸ Delimiters.separable_standard
  have readLoop : Forest.parse renderer.delimiters renderer.mode renderer.maxDepth
      (loopText name path body) = .ok (loopForest name path body forest) := by
    rw [delimiters, mode]
    exact standing.parse_loopText names bound
  have readBody : Forest.parse renderer.delimiters renderer.mode renderer.maxDepth body =
      .ok forest := by
    rw [delimiters, mode]
    exact standing.parse_body (Nat.le_of_succ_le bound)
  have found : Group.items path (some collection) = .ok items := by
    rcases holds with rfl | ⟨entries, rfl, rfl⟩
    · rfl
    · rfl
  have each (item : Value) : renderer.render body (Dictionary.insert data name item) =
      forest.evaluate renderer.registry body ((Scope.ofFields data).bind name item) 0 body.size := by
    rw [render_of_parse_eq_evaluate separable readBody]
    exact (Forest.evaluatesAlike forest _ _ (Scope.Agrees.bind_insert data name item) _ _).symm
  rw [render_of_parse_eq_evaluate separable readLoop, evaluate_loopForest renderer.registry names
    (Forest.inOrder_of_parse readLoop) leads found, map_eq_ok_iff]
  simp only [mapM_eq_ok_iff, each]
  constructor
  · rintro ⟨texts, rendered, rfl⟩
    exact ⟨texts, rendered, rfl⟩
  · rintro ⟨texts, rendered, rfl⟩
    exact ⟨texts, rendered, rfl⟩

/-- A loop over two items, whose body is a conditional block. -/
theorem render_loopText_conditional :
    let body : Text := "{% if x %}é{{ x }}{% endif %}".toList
    let data : Fields := [("xs".toList, .list [.string "<".toList, .string "b".toList])]
    LoopNames "x".toList "xs".toList ∧
      (∃ forest, LoopBody body forest ∧ forest.height + 1 ≤ standard.maxDepth) ∧
      loopText "x".toList "xs".toList body =
        "{% for x in xs %}{% if x %}é{{ x }}{% endif %}{% endfor %}".toList ∧
      standard.render (loopText "x".toList "xs".toList body) data = .ok "é&lt;éb".toList := by
  intro body data
  have names : LoopNames "x".toList "xs".toList :=
    ⟨by decide, forall_mem_of_all (by decide +kernel), by decide,
      forall_mem_of_all (by decide +kernel)⟩
  obtain ⟨forest, made, closed, stays, bound⟩ : ∃ forest, Forest.ofTags 1
      (Pairing.ofText .standard body).tags = .ok forest ∧ forest.Closed ∧
        (∀ single ∈ forest.singles, single.closes? ≠ some .loop) ∧
          forest.height + 1 ≤ standard.maxDepth :=
    ⟨_, rfl, by decide +kernel, by decide +kernel, by decide +kernel⟩
  have terminated : (Pairing.ofText .standard body).unterminated = [] := by decide +kernel
  have standing : LoopBody body forest := ⟨by decide, terminated, ⟨1, made⟩, closed, stays⟩
  have first : standard.render body (Dictionary.insert data "x".toList (.string "<".toList)) =
      .ok "é&lt;".toList := by
    decide +kernel
  have second : standard.render body (Dictionary.insert data "x".toList (.string "b".toList)) =
      .ok "éb".toList := by
    decide +kernel
  have rendered := (render_loopText rfl rfl names standing bound
    (rfl : (Scope.ofFields data).resolve "xs".toList = .ok (some _)) (.inl rfl) _).mpr
      ⟨_, .cons first (.cons second .nil), rfl⟩
  exact ⟨names, ⟨forest, standing, bound⟩, by decide, rendered⟩

end Renderer

end Stencil

import Stencil.Proofs.Forest.Rereading
import Stencil.Proofs.Render.Failures
import Stencil.Proofs.Render.Recording

/-!
# Alignment

Whatever the values are, a rendering never loses track of its text. At each node the document is what
has been written, followed by the rest of the text that the node was read from; each text that is
read again is a slice of the template; and no span is ever missed. This holds of all delimiters, and
of a renderer with others than those of the template.
-/

set_option autoImplicit false

namespace Stencil

/-- The tags of a forest are tags of a text, for some delimiters, and stand where nesting puts
them. -/
structure Forest.ReadFrom (origin : Text) (forest : Forest) : Prop where
  wellNested : forest.WellNested none
  exists_delimiters : ∃ delimiters, forest.flatten.Sublist (Pairing.ofText delimiters origin).tags

namespace Forest.ReadFrom

variable {origin : Text} {forest : Forest}

theorem inOrder (read : forest.ReadFrom origin) : Tag.InOrder origin forest.flatten := by
  obtain ⟨delimiters, sublist⟩ := read.exists_delimiters
  exact (Pairing.inOrder_ofText delimiters origin).sublist sublist

theorem of_parse {delimiters : Delimiters} {mode : Mode} {limit : Nat}
    (parsed : Forest.parse delimiters mode limit origin = .ok forest) : forest.ReadFrom origin := by
  obtain ⟨nested, -, flat⟩ := Forest.of_ofTags (Forest.ofTags_of_parse parsed)
  exact ⟨nested, delimiters, flat ▸ List.Sublist.refl _⟩

private theorem of_sublist {part : Forest} (read : forest.ReadFrom origin)
    (nested : part.WellNested none) (sublist : part.flatten.Sublist forest.flatten) :
    part.ReadFrom origin := by
  obtain ⟨delimiters, whole⟩ := read.exists_delimiters
  exact ⟨nested, delimiters, sublist.trans whole⟩

theorem of_tag {single : Tag} {rest : Forest} (read : (Forest.tag single rest).ReadFrom origin) :
    rest.ReadFrom origin :=
  read.of_sublist read.wellNested.2.2 (List.sublist_cons_self _ _)

theorem of_open {family : Family} {opener : Tag} {body rest : Forest}
    (read : (Forest.group family opener body none rest).ReadFrom origin) :
    body.ReadFrom origin ∧ rest = .nil := by
  obtain ⟨-, inside, -, last, -⟩ := read.wellNested
  exact ⟨read.of_sublist inside.outside (by simp [Forest.flatten]), last rfl⟩

theorem of_closed {family : Family} {opener closer : Tag} {body rest : Forest}
    (read : (Forest.group family opener body (some closer) rest).ReadFrom origin) :
    rest.ReadFrom origin := by
  obtain ⟨-, -, -, -, after⟩ := read.wellNested
  refine read.of_sublist after ?_
  rw [Forest.flatten_group]
  exact List.sublist_append_right _ _

end Forest.ReadFrom

/-- What is recorded agrees with the text of the template. -/
def Event.Aligned (root : Text) : Event → Prop
  | visit origin forest progress document =>
      origin <:+: root ∧ forest.ReadFrom origin ∧
        document.text = progress.written ++ origin.dropBytes progress.reached ∧
          ∀ tag ∈ forest.flatten, progress.reached ≤ tag.start
  | reading origin first second text =>
      origin <:+: root ∧ text = origin.slice first.stop second.start ∧ text <:+: root

/-- The failure is not that of a span that is missed. -/
def RenderError.InBounds : RenderError → Prop
  | spanOutOfBounds _ _ => False
  | _ => True

theorem RenderError.OfContent.inBounds {error : RenderError} (content : error.OfContent) :
    error.InBounds := by
  cases error with
  | spanOutOfBounds span size => cases content
  | _ => trivial

namespace Tape

/-- All that has been recorded agrees with the text of the template. -/
def Aligned (root : Text) (tape : Tape) : Prop := ∀ event ∈ tape.events, event.Aligned root

/-- The document is what the progress says. -/
def At (origin : Text) (progress : Progress) (tape : Tape) : Prop :=
  tape.progress = progress ∧ tape.document = progress.document origin

end Tape

namespace Recording

variable {α β : Type} {root origin : Text} {progress : Progress}

/-- The record agrees with the text of the template, and either a condition holds of the result or
the failure is not that of a span. -/
def Holds (root : Text) (after : α → Tape → Prop) : EStateM.Result RenderError Tape α → Prop
  | .ok result tape => tape.Aligned root ∧ after result tape
  | .error error tape => tape.Aligned root ∧ error.InBounds

/-- From a tape with a condition, a recording keeps its record in agreement and misses no span, and
another condition holds when it is done. -/
def Satisfies (root : Text) (before : Tape → Prop) (recording : Recording α)
    (after : α → Tape → Prop) : Prop :=
  ∀ tape, tape.Aligned root → before tape → Holds root after (recording.run tape)

theorem satisfies_pure {before : Tape → Prop} {after : α → Tape → Prop} (value : α)
    (implies : ∀ tape, before tape → after value tape) :
    Satisfies root before (pure value) after :=
  fun tape aligned holds => ⟨aligned, implies tape holds⟩

theorem Satisfies.bind {before : Tape → Prop} {middle : α → Tape → Prop} {after : β → Tape → Prop}
    {first : Recording α} {next : α → Recording β} (firstStep : Satisfies root before first middle)
    (nextStep : ∀ value, Satisfies root (middle value) (next value) after) :
    Satisfies root before (first >>= next) after := by
  intro tape aligned holds
  have stepped := firstStep tape aligned holds
  rw [EStateM.run_bind]
  cases result : first.run tape with
  | ok value changed =>
      rw [result] at stepped
      exact nextStep value changed stepped.1 stepped.2
  | error error changed =>
      rw [result] at stepped
      exact stepped

theorem satisfies_ofExcept {before : Tape → Prop} (result : Except RenderError α)
    (fails : ∀ error, result = .error error → error.InBounds) :
    Satisfies root before (ofExcept result) fun value tape => result = .ok value ∧ before tape := by
  intro tape aligned holds
  cases result with
  | ok value => exact ⟨aligned, rfl, holds⟩
  | error error => exact ⟨aligned, fails error rfl⟩

theorem satisfies_record {before : Tape → Prop} {event : Event}
    (aligned : ∀ tape, before tape → event.Aligned root)
    (keeps : ∀ tape events, before tape → before { tape with events }) :
    Satisfies root before (record event) fun _ => before := by
  intro tape earlier holds
  refine ⟨?_, keeps tape _ holds⟩
  intro other member
  rcases List.mem_append.mp member with before | last
  · exact earlier other before
  · obtain rfl := List.mem_singleton.mp last
    exact aligned tape holds

theorem satisfies_visit {forest : Forest} (within : origin <:+: root)
    (read : forest.ReadFrom origin) (precedes : progress.Precedes origin forest.flatten) :
    Satisfies root (Tape.At origin progress) (visit origin forest)
      fun _ => Tape.At origin progress := by
  intro tape earlier holds
  have aligned : Event.Aligned root (.visit origin forest tape.progress tape.document) := by
    rw [holds.1, holds.2]
    exact ⟨within, read, rfl, precedes.le_start⟩
  exact satisfies_record (fun _ _ => aligned) (fun _ _ kept => kept) tape earlier holds

theorem satisfies_between {tags : List Tag} {first second : Tag}
    (precedes : progress.Precedes origin tags) (firstMember : first ∈ tags)
    (secondMember : second ∈ tags) (ordered : first.stop ≤ second.start) :
    Satisfies root (Tape.At origin progress) (edit (.between first.span second.span))
      fun text tape => text = origin.slice first.stop second.start ∧ tape.At origin progress := by
  intro tape aligned holds
  have found := precedes.between firstMember secondMember ordered
  rw [run_edit, Editing.run_between, holds.2, found]
  exact ⟨aligned, rfl, holds.1, rfl⟩

theorem satisfies_replace {span : Span} {content : Text}
    (found : (progress.document origin).replace span content =
      .ok ((progress.write origin span content).document origin)) :
    Satisfies root (Tape.At origin progress) (replace origin span content)
      fun _ => Tape.At origin (progress.write origin span content) := by
  intro tape aligned holds
  rw [replace, EStateM.run_bind, run_edit, Editing.run_replace, holds.2, found]
  exact ⟨aligned, by rw [← holds.1], rfl⟩

theorem satisfies_mapM {before : Tape → Prop} (items : List α) {step : α → Recording β}
    (each : ∀ item, Satisfies root before (step item) fun _ => before) :
    Satisfies root before (items.mapM step) fun _ => before := by
  induction items with
  | nil => exact satisfies_pure _ fun _ holds => holds
  | cons item items ih =>
      rw [List.mapM_cons]
      exact (each item).bind fun _ => ih.bind fun _ => satisfies_pure _ fun _ holds => holds

/-- What is known of a result of the step before does not depend on the tape. -/
theorem Satisfies.of_and {known : Prop} {before : Tape → Prop} {after : α → Tape → Prop}
    {recording : Recording α} (satisfies : known → Satisfies root before recording after) :
    Satisfies root (fun tape => known ∧ before tape) recording after :=
  fun tape aligned holds => satisfies holds.1 tape aligned holds.2

theorem Satisfies.mono {before : Tape → Prop} {after weaker : α → Tape → Prop}
    {recording : Recording α} (satisfies : Satisfies root before recording after)
    (implies : ∀ value tape, after value tape → weaker value tape) :
    Satisfies root before recording weaker := by
  intro tape aligned holds
  have stepped := satisfies tape aligned holds
  cases result : recording.run tape with
  | ok value changed =>
      rw [result] at stepped
      exact ⟨stepped.1, implies value changed stepped.2⟩
  | error error changed =>
      rw [result] at stepped
      exact stepped

end Recording

/-- Whatever forest of a slice of the template it works off, a recorder keeps the record in
agreement. -/
def Recorder.Aligns (root : Text) (recorder : Recorder) : Prop :=
  ∀ forest scope origin progress, origin <:+: root → forest.ReadFrom origin →
    progress.Precedes origin forest.flatten →
      Recording.Satisfies root (Tape.At origin progress) (recorder forest scope origin)
        fun _ tape => ∃ next, tape.At origin next

theorem Recorder.Aligns.render {root origin text : Text} {recorder : Recorder} {forest : Forest}
    {progress : Progress} (aligns : recorder.Aligns root) (within : text <:+: root)
    (read : forest.ReadFrom text) (scope : Scope) :
    Recording.Satisfies root (Tape.At origin progress) (recorder.render forest scope text)
      fun _ => Tape.At origin progress := by
  intro tape aligned holds
  have inner := aligns forest scope text .start within read (Progress.precedes_start read.inOrder)
    ⟨.ofText text, .start, tape.events⟩ aligned ⟨rfl, (Progress.document_start text).symm⟩
  rw [run_render]
  cases result : (recorder forest scope text).run ⟨.ofText text, .start, tape.events⟩ with
  | ok value changed =>
      rw [result] at inner
      exact ⟨inner.1, holds⟩
  | error error changed =>
      rw [result] at inner
      exact inner

namespace Renderer

open Recording (Satisfies)

variable {root origin : Text} {progress : Progress} {deeper : Option Recorder}

/-- What is done one level deeper keeps the record in agreement. -/
def DeeperAligns (root : Text) (deeper : Option Recorder) : Prop :=
  ∀ recorder, deeper = some recorder → recorder.Aligns root

theorem satisfies_recordDeeper (renderer : Renderer) {before : Tape → Prop}
    (aligns : DeeperAligns root deeper) :
    Satisfies root before (renderer.recordDeeper deeper)
      fun recorder tape => recorder.Aligns root ∧ before tape := by
  intro tape aligned holds
  cases deeper with
  | none => exact ⟨aligned, trivial⟩
  | some recorder => exact ⟨aligned, aligns recorder rfl, holds⟩

theorem readFrom_of_parseFragment {renderer : Renderer} {text : Text} {forest : Forest}
    (parsed : renderer.parseFragment text = .ok forest) : forest.ReadFrom text :=
  .of_parse (mapError_eq_ok_iff.mp parsed)

theorem inBounds_of_parseFragment {renderer : Renderer} {text : Text} {error : RenderError}
    (failed : renderer.parseFragment text = .error error) : error.InBounds := by
  obtain ⟨cause, -, rfl⟩ := mapError_eq_error_iff.mp failed
  rw [RenderError.ofTemplateError]
  split <;> trivial

theorem satisfies_recordReading (renderer : Renderer) {first second : Tag} {text : Text}
    (within : origin <:+: root) (cut : text = origin.slice first.stop second.start) :
    Satisfies root (Tape.At origin progress) (renderer.recordReading origin first second text)
      fun forest tape => forest.ReadFrom text ∧ tape.At origin progress := by
  have contained : text <:+: root :=
    cut ▸ (Text.slice_isInfix origin first.stop second.start).trans within
  have recorded : Satisfies root (Tape.At origin progress)
      (Recording.record (.reading origin first second text)) fun _ => Tape.At origin progress :=
    Recording.satisfies_record (fun _ _ => ⟨within, cut, contained⟩) fun _ _ kept => kept
  refine recorded.bind fun _ => ?_
  refine (Recording.satisfies_ofExcept (renderer.parseFragment text) fun error failed =>
    inBounds_of_parseFragment failed).mono fun forest tape known => ?_
  exact ⟨readFrom_of_parseFragment known.1, known.2⟩

/-- The text of an expansion, taken from between tags that are still to come. -/
theorem satisfies_recordExpansion (renderer : Renderer) (aligns : DeeperAligns root deeper)
    (within : origin <:+: root) {tags : List Tag} (precedes : progress.Precedes origin tags)
    (scope : Scope) {expansion : Expansion} (taken : expansion.TakenFrom tags) :
    Satisfies root (Tape.At origin progress)
      (renderer.recordExpansion deeper origin scope expansion) fun _ => Tape.At origin progress := by
  cases expansion with
  | copy first second =>
      exact (Recording.satisfies_between precedes taken.1 taken.2.1 taken.2.2).mono
        fun _ _ known => known.2
  | fragment first second =>
      refine (Recording.satisfies_between precedes taken.1 taken.2.1 taken.2.2).bind fun text =>
        .of_and fun cut => ?_
      refine (renderer.satisfies_recordDeeper aligns).bind fun recorder => .of_and fun inner => ?_
      refine (renderer.satisfies_recordReading within cut).bind fun forest => .of_and fun read => ?_
      exact inner.render (cut ▸ (Text.slice_isInfix _ _ _).trans within) read scope
  | each first second name items =>
      refine (Recording.satisfies_between precedes taken.1 taken.2.1 taken.2.2).bind fun text =>
        .of_and fun cut => ?_
      refine (renderer.satisfies_recordDeeper aligns).bind fun recorder => .of_and fun inner => ?_
      refine (renderer.satisfies_recordReading within cut).bind fun forest => .of_and fun read => ?_
      refine (Recording.satisfies_mapM items fun item => ?_).bind fun texts =>
        Recording.satisfies_pure _ fun _ known => known
      exact inner.render (cut ▸ (Text.slice_isInfix _ _ _).trans within) read _
  | nothing => exact Recording.satisfies_pure _ fun _ known => known

/-- One node after the other, each on a document of what has been written and the rest of the
text. -/
theorem aligns_recordWalk (renderer : Renderer) (aligns : DeeperAligns root deeper) :
    Recorder.Aligns root (renderer.recordWalk deeper) := by
  intro forest scope origin progress within read precedes
  induction forest generalizing progress with
  | nil => exact Recording.satisfies_pure () fun tape known => ⟨progress, known⟩
  | tag single rest ih =>
      refine (Recording.satisfies_visit within read precedes).bind fun _ => ?_
      refine (Recording.satisfies_ofExcept _ fun error failed =>
        (single.failsByContent_replacement _ _ error failed).inBounds).bind fun content =>
          .of_and fun _ => ?_
      refine (Recording.satisfies_replace (precedes.replace_tag content)).bind fun _ => ?_
      exact ih _ read.of_tag (precedes.write_tag content)
  | group family opener body closer rest _ restIH =>
      cases closer with
      | none =>
          obtain ⟨inside, rfl⟩ := read.of_open
          have bodyPrecedes : progress.Precedes origin body.flatten :=
            precedes.sublist (by simp [Forest.flatten])
          refine (Recording.satisfies_visit within read precedes).bind fun _ => ?_
          refine (renderer.satisfies_recordDeeper aligns).bind fun recorder =>
            .of_and fun inner => ?_
          refine (inner body scope origin progress within inside bodyPrecedes).bind fun _ => ?_
          exact Recording.satisfies_pure () fun tape known => known
      | some closing =>
          have divided : progress.Precedes origin
              (opener :: (body.flatten ++ closing :: rest.flatten)) := precedes
          have own : progress.Precedes origin (opener :: (body.flatten ++ [closing])) :=
            divided.sublist (by simp)
          refine (Recording.satisfies_visit within read precedes).bind fun _ => ?_
          refine (Recording.satisfies_ofExcept _ fun error failed =>
            (Group.failsByContent_expansion _ _ _ _ error failed).inBounds).bind fun expansion =>
              .of_and fun expands => ?_
          refine (renderer.satisfies_recordExpansion aligns within own scope
            (Group.takenFrom_of_expansion own.inOrder expands)).bind fun content => ?_
          refine (Recording.satisfies_replace (divided.replace content)).bind fun _ => ?_
          exact restIH _ read.of_closed (Tag.Framed.split_cons divided).2.split.2

theorem aligns_recordWithin (renderer : Renderer) (levels : Nat) :
    Recorder.Aligns root (renderer.recordWithin levels) := by
  induction levels with
  | zero => exact renderer.aligns_recordWalk fun _ none => by cases none
  | succ levels ih => exact renderer.aligns_recordWalk fun _ same => Option.some.inj same ▸ ih

/-- Values are never read as a template. In every rendering of a template, whatever delimiters it was
read with, each text that is read again is a slice of the template, each node finds the document as
what has been written followed by the rest of the text that the node was read from, and no span is
missed. -/
theorem recordTemplate_aligned {delimiters : Delimiters} {mode : Mode} {limit : Nat} {source : Text}
    {template : Template} (parsed : Template.parse delimiters mode limit source = .ok template)
    (renderer : Renderer) (data : Fields) :
    (renderer.recordTemplate template data).outcome = renderer.renderTemplate template data ∧
      (∀ event ∈ (renderer.recordTemplate template data).events, event.Aligned source) ∧
        ∀ span size, renderer.renderTemplate template data ≠ .error (.spanOutOfBounds span size) := by
  obtain ⟨forest, read, rfl⟩ := Template.parse_eq_ok_iff.mp parsed
  have readFrom := Forest.ReadFrom.of_parse read
  have empty : Tape.Aligned source ⟨.ofText source, .start, []⟩ := by
    intro event member
    cases member
  have aligns := renderer.aligns_recordWithin renderer.maxDepth forest (.ofFields data) source .start
    (List.infix_refl source) readFrom (Progress.precedes_start readFrom.inOrder)
    ⟨.ofText source, .start, []⟩ empty ⟨rfl, (Progress.document_start source).symm⟩
  have outcome := renderer.outcome_recordTemplate ⟨source, forest⟩ data
  refine ⟨outcome, ?_⟩
  rw [← outcome, recordTemplate]
  cases result : (renderer.recordWithin renderer.maxDepth forest (.ofFields data) source).run
      ⟨.ofText source, .start, []⟩ with
  | ok value tape =>
      rw [result] at aligns
      refine ⟨aligns.1, ?_⟩
      intro span size failed
      cases failed
  | error error tape =>
      rw [result] at aligns
      refine ⟨aligns.1, ?_⟩
      intro span size failed
      cases failed
      exact aligns.2

/-- A value that looks like a tag, in a loop whose body is read with other delimiters than the
template. -/
theorem recordTemplate_aligned_value :
    let source : Text := "{% for x in xs %}é{{ x }}{% endfor %}".toList
    let others : Delimiters :=
      ⟨['{', '{'], ['}'], ['{', '%'], ['%', '}'], by decide, by decide, by decide, by decide,
        by decide⟩
    let renderer : Renderer := ⟨others, .standard, .lenient, 1⟩
    let data : Fields := [("xs".toList, .list [.string "{{ x }}".toList])]
    ∃ template, Template.parse .standard .strict 1 source = .ok template ∧
      (renderer.recordTemplate template data).events.length = 3 ∧
        (renderer.renderTemplate template data).toOption = some "é\x7b\x7b x \x7d\x7d\x7d".toList ∧
          (renderer.recordTemplate template data).outcome = renderer.renderTemplate template data ∧
            (∀ event ∈ (renderer.recordTemplate template data).events, event.Aligned source) ∧
              ∀ span size,
                renderer.renderTemplate template data ≠ .error (.spanOutOfBounds span size) := by
  intro source others renderer data
  obtain ⟨template, parsed, recorded, rendered⟩ :
      ∃ template, Template.parse .standard .strict 1 source = .ok template ∧
        (renderer.recordTemplate template data).events.length = 3 ∧
          (renderer.renderTemplate template data).toOption = some "é\x7b\x7b x \x7d\x7d\x7d".toList :=
    ⟨_, rfl, by decide +kernel, by decide +kernel⟩
  exact ⟨template, parsed, recorded, rendered, recordTemplate_aligned parsed renderer data⟩

end Renderer

end Stencil

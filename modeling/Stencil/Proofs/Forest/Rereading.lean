import Stencil.Proofs.Forest.Moving
import Stencil.Template

/-!
# Reading a part of a text again

A part of a text that is cut out between two block tags and read on its own gives the part of the
forest that stands there, moved to the left. This needs delimiters that do not reach across the cuts.
-/

set_option autoImplicit false

namespace Stencil

theorem Span.contains_iff {span : Span} {position : Nat} :
    span.contains position = true ↔ span.start ≤ position ∧ position < span.stop := by
  simp [contains]

theorem Finding.earliest?_eq_none_iff {findings : List Finding} :
    earliest? findings = none ↔ findings = [] := by
  cases findings with
  | nil => exact ⟨fun _ => rfl, fun _ => rfl⟩
  | cons finding findings =>
      simp only [earliest?]
      cases earliest? findings <;> simp

namespace Forest

variable {delimiters : Delimiters} {mode : Mode} {limit : Nat} {text : Text} {forest : Forest}

theorem parse_lenient_eq_ok_iff :
    parse delimiters .lenient limit text = .ok forest ↔
      ofTags limit (Pairing.ofText delimiters text).tags = .ok forest := by
  simp only [parse]
  cases ofTags limit (Pairing.ofText delimiters text).tags <;> simp

theorem parse_strict_eq_ok_iff :
    parse delimiters .strict limit text = .ok forest ↔
      ofTags limit (Pairing.ofText delimiters text).tags = .ok forest ∧
        forest.allFindings (Pairing.ofText delimiters text).unterminated = [] := by
  simp only [parse]
  cases ofTags limit (Pairing.ofText delimiters text).tags with
  | error tooDeep => simp
  | ok made =>
      rw [← Finding.earliest?_eq_none_iff]
      cases found : Finding.earliest?
          (made.allFindings (Pairing.ofText delimiters text).unterminated) with
      | none =>
          simp only [found, Except.ok.injEq]
          exact ⟨fun same => ⟨same, same ▸ found⟩, fun both => both.1⟩
      | some finding =>
          simp only [found, Except.ok.injEq, reduceCtorEq, false_iff, not_and]
          rintro rfl
          simp [found]

/-- Whatever is read strictly is also read leniently. -/
theorem ofTags_of_parse (parsed : parse delimiters mode limit text = .ok forest) :
    ofTags limit (Pairing.ofText delimiters text).tags = .ok forest := by
  cases mode with
  | lenient => exact parse_lenient_eq_ok_iff.mp parsed
  | strict => exact (parse_strict_eq_ok_iff.mp parsed).1

/-- What has been read is also read leniently, and with a larger limit. -/
theorem parse_mono {looser : Mode} {larger : Nat} (modes : looser = .lenient ∨ looser = mode)
    (more : limit ≤ larger) (parsed : parse delimiters mode limit text = .ok forest) :
    parse delimiters looser larger text = .ok forest := by
  have made := ofTags_mono more (ofTags_of_parse parsed)
  cases looser with
  | lenient => exact parse_lenient_eq_ok_iff.mpr made
  | strict =>
      obtain rfl := modes.resolve_left (by simp)
      exact parse_strict_eq_ok_iff.mpr ⟨made, (parse_strict_eq_ok_iff.mp parsed).2⟩

theorem allFindings_eq_nil_iff {unterminated : List Occurrence} :
    forest.allFindings unterminated = [] ↔
      forest.findings none false = [] ∧ ∀ opening ∈ unterminated,
        ∃ span ∈ forest.verbatimSpans, span.contains opening.position = true := by
  simp [allFindings, List.append_eq_nil_iff, List.filter_eq_nil_iff]

theorem inOrder_of_parse (parsed : parse delimiters mode limit text = .ok forest) :
    Tag.InOrder text forest.flatten := by
  obtain ⟨-, -, flat⟩ := of_ofTags (ofTags_of_parse parsed)
  exact flat ▸ Pairing.inOrder_ofText delimiters text

end Forest

theorem Template.parse_eq_ok_iff {delimiters : Delimiters} {mode : Mode} {limit : Nat}
    {source : Text} {template : Template} :
    parse delimiters mode limit source = .ok template ↔
      ∃ forest, Forest.parse delimiters mode limit source = .ok forest ∧
        template = ⟨source, forest⟩ := by
  rw [parse, map_eq_ok_iff]
  simp only [eq_comm]

namespace Part

variable {delimiters : Delimiters} {mode : Mode} {limit other : Nat} {text : Text}
  {forest : Forest} {part : Part}

/-- A part read on its own, in some mode, gives what stands there, moved to the left. -/
def Rereads (part : Part) (delimiters : Delimiters) (mode : Mode) (limit : Nat) (text : Text) :
    Prop :=
  Forest.parse delimiters mode limit (text.slice part.start part.stop) =
    .ok (part.forest.moveBack part.start)

theorem ofTags_slice (separable : delimiters.Separable)
    (flat : forest.flatten = (Pairing.ofText delimiters text).tags) (stands : part.StandsIn forest)
    (fits : part.forest.height ≤ limit) :
    Forest.ofTags limit (Pairing.ofText delimiters (text.slice part.start part.stop)).tags =
      .ok (part.forest.moveBack part.start) := by
  obtain ⟨before, first, second, after, tags, firstBlock, secondBlock, start, stop⟩ :=
    stands.exists_edges
  obtain ⟨shifted, -⟩ := Pairing.tags_slice separable (flat ▸ tags) firstBlock secondBlock
  rw [start, stop] at shifted
  have moved : (Pairing.ofText delimiters (text.slice part.start part.stop)).tags =
      (part.forest.moveBack part.start).flatten := by
    rw [Forest.flatten_moveBack, ← shifted, Tag.map_moveBack_map_shift]
  rw [moved]
  refine Forest.ofTags_eq_ok_iff.mpr ⟨(Forest.wellNested_moveBack _).mpr
    stands.wellNested, ?_, rfl⟩
  rwa [Forest.height_moveBack]

/-- Whatever the whole text was read as, its parts can be read leniently. -/
theorem rereads_lenient (separable : delimiters.Separable)
    (parsed : Forest.parse delimiters mode other text = .ok forest)
    (stands : part.StandsIn forest) (fits : part.forest.height ≤ limit) :
    part.Rereads delimiters .lenient limit text := by
  obtain ⟨-, -, flat⟩ := Forest.of_ofTags (Forest.ofTags_of_parse parsed)
  exact Forest.parse_lenient_eq_ok_iff.mpr (ofTags_slice separable flat stands fits)

theorem framed_of_standsIn (order : Tag.InOrder text forest.flatten)
    (stands : part.StandsIn forest) :
    Tag.Framed text part.start part.stop part.forest.flatten := by
  obtain ⟨before, first, second, after, flat, -, -, start, stop⟩ := stands.exists_edges
  have whole := order.framed
  rw [flat] at whole
  rw [← start, ← stop]
  exact whole.split.2.split.1

theorem rereads_strict (separable : delimiters.Separable)
    (parsed : Forest.parse delimiters .strict other text = .ok forest) {group : Group}
    (member : group ∈ forest.exposedGroups) (notVerbatim : group.family ≠ .verbatim) {closer : Tag}
    (closed : group.closer = some closer) (among : part ∈ group.parts closer)
    (fits : part.forest.height ≤ limit) : part.Rereads delimiters .strict limit text := by
  obtain ⟨made, clean⟩ := Forest.parse_strict_eq_ok_iff.mp parsed
  obtain ⟨clean, covered⟩ := Forest.allFindings_eq_nil_iff.mp clean
  have order := Forest.inOrder_of_parse parsed
  obtain ⟨nested, -, flat⟩ := Forest.of_ofTags made
  have stands := Group.standsIn_of_mem_parts nested (Forest.allGroups_of_mem_exposedGroups member)
    closed among
  have faultless := Group.findings_of_mem_parts clean member notVerbatim among
  refine Forest.parse_strict_eq_ok_iff.mpr ⟨ofTags_slice separable flat stands fits,
    Forest.allFindings_eq_nil_iff.mpr ⟨(Forest.findings_moveBack_eq_nil_iff _).mpr faultless, ?_⟩⟩
  intro opening left
  -- What is left open in the part is left open in the text, so a verbatim span lies around it.
  have framed := framed_of_standsIn order stands
  obtain ⟨before, first, second, after, tags, firstBlock, secondBlock, start, stop⟩ :=
    stands.exists_edges
  obtain ⟨-, shifted⟩ := Pairing.tags_slice separable (flat ▸ tags) firstBlock secondBlock
  rw [start, stop] at shifted
  obtain ⟨span, spans, contains⟩ := covered _ (shifted opening left)
  obtain ⟨starts, stops⟩ := Span.contains_iff.mp contains
  have inside : opening.position < part.stop - part.start := by
    rw [← Text.size_slice framed.isCut_start framed.isCut_stop framed.start_le_stop]
    exact Pairing.position_lt_size_of_mem_unterminated left
  have inPart := Group.mem_verbatimSpans_of_mem_parts order member notVerbatim closed among spans
    (Nat.le_add_left _ _) (by omega) starts stops
  refine ⟨span.moveBack part.start, ?_, Span.contains_iff.mpr ?_⟩
  · rw [Forest.verbatimSpans_moveBack]
    exact List.mem_map_of_mem inPart
  · simp only [Occurrence.position_shift] at starts stops
    simp only [Span.moveBack]
    omega

end Part

namespace Forest

variable {delimiters : Delimiters} {limit : Nat} {text : Text} {forest : Forest}

/-- Reading parts of a text again agrees with the forest of the text. In lenient mode this holds of
the body of every closed group, and of both halves of a conditional body around its first separator.
In strict mode it holds of the parts of every group that is not verbatim text. -/
theorem parts_reread (separable : delimiters.Separable)
    (parsed : parse delimiters .lenient limit text = .ok forest) :
    (∀ group ∈ forest.allGroups, ∀ closer, group.closer = some closer →
      (group.bodyPart closer).Rereads delimiters .lenient limit text ∧
        ∀ separator, group.family = .conditional → group.body.else? = some separator →
          ∀ half ∈ group.halves separator closer, half.Rereads delimiters .lenient limit text) ∧
      ∀ checked, parse delimiters .strict limit text = .ok checked →
        checked = forest ∧
          ∀ group ∈ checked.exposedGroups, group.family ≠ .verbatim →
            ∀ closer, group.closer = some closer →
              ∀ part ∈ group.parts closer, part.Rereads delimiters .strict limit text := by
  have made := parse_lenient_eq_ok_iff.mp parsed
  obtain ⟨nested, bound, -⟩ := of_ofTags made
  have fits {part : Part} (stands : part.StandsIn forest) : part.forest.height ≤ limit :=
    Nat.le_trans (Nat.le_of_lt stands.height_lt) bound
  constructor
  · intro group member closer closed
    constructor
    · have stands := Group.standsIn_bodyPart nested member closed
      exact Part.rereads_lenient separable parsed stands (fits stands)
    · intro separator _ separated half among
      have stands := Group.standsIn_of_mem_halves nested member closed separated among
      exact Part.rereads_lenient separable parsed stands (fits stands)
  · intro checked strict
    obtain rfl : checked = forest :=
      Except.ok.inj ((parse_strict_eq_ok_iff.mp strict).1.symm.trans made)
    refine ⟨rfl, ?_⟩
    intro group member notVerbatim closer closed part among
    have stands := Group.standsIn_of_mem_parts nested (allGroups_of_mem_exposedGroups member)
      closed among
    exact Part.rereads_strict separable strict member notVerbatim closed among (fits stands)

/-- The branches of a conditional block, read on their own. -/
theorem branches_reread :
    let opener : Tag := ⟨.block, 0, 10, "{% if a %}".toList, " if a ".toList⟩
    let separator : Tag := ⟨.block, 17, 27, "{% else %}".toList, " else ".toList⟩
    let closer : Tag := ⟨.block, 28, 39, "{% endif %}".toList, " endif ".toList⟩
    let body : Forest :=
      .tag ⟨.variable, 12, 17, "{{b}}".toList, "b".toList⟩ (.tag separator .nil)
    let forest : Forest := .group .conditional opener body (some closer) .nil
    let text : Text := "{% if a %}é{{b}}{% else %}c{% endif %}".toList
    parse .standard .lenient 1 text = .ok forest ∧
      parse .standard .strict 1 text = .ok forest ∧
        (Group.bodyPart ⟨.conditional, opener, body, some closer⟩ closer).Rereads
          .standard .lenient 1 text ∧
          parse .standard .strict 1 "é{{b}}".toList =
            .ok (.tag ⟨.variable, 2, 7, "{{b}}".toList, "b".toList⟩ .nil) := by
  intro opener separator closer body forest text
  have lenient : parse .standard .lenient 1 text = .ok forest := by rfl
  have strict : parse .standard .strict 1 text = .ok forest := by rfl
  obtain ⟨leniently, strictly⟩ := parts_reread Delimiters.separable_standard lenient
  refine ⟨lenient, strict, (leniently _ List.mem_cons_self closer rfl).1, ?_⟩
  have group := (strictly forest strict).2 ⟨.conditional, opener, body, some closer⟩
    List.mem_cons_self (by decide) closer rfl
  exact group ⟨10, 17, body.beforeElse⟩ List.mem_cons_self

end Forest

end Stencil

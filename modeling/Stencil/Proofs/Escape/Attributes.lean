import Mathlib.Data.List.Induction
import Stencil.Proofs.Escape.AttributeRows
import Stencil.Proofs.Text.Trimming

/-!
# Quotes in attributes

Written anew, an attribute has no quotes in its value. Its name is what stands before the equals sign,
whatever that may hold: a quote in the text outside of all values is written as part of a name. Of the
attributes with one name the last is written, in the place of the first.
-/

set_option autoImplicit false

namespace Stencil

theorem Text.mem_join {separator : Text} {pieces : List Text} {character : Char}
    (member : character ∈ Text.join separator pieces) :
    character ∈ separator ∨ ∃ piece ∈ pieces, character ∈ piece := by
  induction pieces with
  | nil => cases member
  | cons piece pieces ih =>
      cases pieces with
      | nil => exact .inr ⟨piece, List.mem_cons_self, member⟩
      | cons next pieces =>
          rw [join, List.mem_append, List.mem_append] at member
          rcases member with here | between | later
          · exact .inr ⟨piece, List.mem_cons_self, here⟩
          · exact .inl between
          · rcases ih later with between | ⟨other, among, inside⟩
            · exact .inl between
            · exact .inr ⟨other, List.mem_cons_of_mem _ among, inside⟩

namespace Escape

/-! ## Escaped quotes -/

def Unquoted (text : Text) : Prop := '\'' ∉ text ∧ '"' ∉ text

/-- How a character is written where quotes are escaped. -/
def quoteForm (character : Char) : Text :=
  if character = '\'' ∨ character = '"' then "&quot;".toList else [character]

theorem unquoted_quoteForm (character : Char) : Unquoted (quoteForm character) := by
  rw [quoteForm]
  split
  · exact ⟨by decide, by decide⟩
  · next other =>
      rw [not_or] at other
      exact ⟨by simpa using Ne.symm other.1, by simpa using Ne.symm other.2⟩

theorem unquoted_flatMap_quoteForm (text : Text) : Unquoted (text.flatMap quoteForm) := by
  constructor
  · intro member
    obtain ⟨character, -, inside⟩ := List.mem_flatMap.mp member
    exact (unquoted_quoteForm character).1 inside
  · intro member
    obtain ⟨character, -, inside⟩ := List.mem_flatMap.mp member
    exact (unquoted_quoteForm character).2 inside

theorem unquoted_trim_iff {text : Text} : Unquoted text.trim ↔ Unquoted text := by
  obtain ⟨before, after, whole, blankBefore, -, blankAfter⟩ := text.exists_eq_append_trim
  have outside {quote : Char} (visible : isBlank quote = false) : quote ∉ text ↔ quote ∉ text.trim := by
    conv_lhs => rw [whole]
    simp [blankBefore.not_mem visible, blankAfter.not_mem visible]
  rw [Unquoted, Unquoted, outside (by decide), outside (by decide)]

/-! ## Keeping one attribute for each name -/

section

variable {α : Type} {name value : α → Text}

/-- The last of the items with its name. -/
def IsLastNamed (name : α → Text) (item : α) (items : List α) : Prop :=
  ∃ earlier later, items = earlier ++ item :: later ∧ ∀ other ∈ later, name other ≠ name item

/-- A new attribute takes the place of the one with its name, or else the last place. -/
theorem exists_setAttribute (kept : List α) (item : α) (distinct : (kept.map name).Nodup) :
    ∃ kept' : List α,
      setAttribute (kept.map fun other => (name other, value other)) (name item) (value item) =
          (kept'.map fun other => (name other, value other)) ∧
        kept'.map name =
          (if name item ∈ kept.map name then kept.map name else kept.map name ++ [name item]) ∧
        ∀ other ∈ kept', other = item ∨ other ∈ kept ∧ name other ≠ name item := by
  induction kept with
  | nil => exact ⟨[item], rfl, by simp, by simp⟩
  | cons first kept ih =>
      obtain ⟨fresh, distinct⟩ := List.nodup_cons.mp distinct
      by_cases same : name item = name first
      · refine ⟨item :: kept, ?_, ?_, ?_⟩
        · simp [setAttribute, same]
        · simp [same]
        · intro other member
          rcases List.mem_cons.mp member with here | later
          · exact .inl here
          · refine .inr ⟨List.mem_cons_of_mem _ later, fun equal => fresh ?_⟩
            exact List.mem_map.mpr ⟨other, later, equal.trans same⟩
      · obtain ⟨kept', set, names, members⟩ := ih distinct
        refine ⟨first :: kept', ?_, ?_, ?_⟩
        · simp [setAttribute, same, ← set]
        · simp only [List.map_cons, names, List.mem_cons, same, false_or]
          split <;> rfl
        · intro other member
          rcases List.mem_cons.mp member with rfl | later
          · exact .inr ⟨List.mem_cons_self, Ne.symm same⟩
          · exact (members other later).imp_right (And.imp_left (List.mem_cons_of_mem _))

theorem eraseDups_concat (names : List Text) (name : Text) :
    (names ++ [name]).eraseDups =
      if name ∈ names.eraseDups then names.eraseDups else names.eraseDups ++ [name] := by
  rw [List.eraseDups_append]
  by_cases member : name ∈ names
  · simp [List.removeAll, member]
  · simp [List.removeAll, member, List.eraseDups_cons]

/-- What is kept are the last attributes of their names, in the order of the first ones. -/
theorem exists_kept (items : List α) :
    ∃ kept : List α,
      (items.map fun item => (name item, value item)).foldl
          (fun pairs (name, value) => setAttribute pairs name value) [] =
        (kept.map fun item => (name item, value item)) ∧
      kept.map name = (items.map name).eraseDups ∧
      (kept.map name).Nodup ∧
      ∀ item ∈ kept, IsLastNamed name item items := by
  -- The fold takes the last attribute last, so that the induction is from the end of the list.
  induction items using List.reverseRecOn with
  | nil => exact ⟨[], rfl, rfl, List.nodup_nil, by simp⟩
  | append_singleton items item ih =>
      obtain ⟨kept, folded, names, distinct, last⟩ := ih
      obtain ⟨kept', set, names', members⟩ := exists_setAttribute kept item distinct
      refine ⟨kept', ?_, ?_, ?_, ?_⟩
      · rw [List.map_append, List.foldl_append, folded]
        exact set
      · rw [names', names, List.map_append]
        exact (eraseDups_concat _ _).symm
      · rw [names']
        split
        · exact distinct
        · next fresh =>
            refine List.nodup_append.mpr ⟨distinct, by simp, ?_⟩
            rintro name member _ new rfl
            exact fresh (List.mem_singleton.mp new ▸ member)
      · intro other member
        rcases members other member with rfl | ⟨before, different⟩
        · exact ⟨items, [], rfl, by simp⟩
        · obtain ⟨earlier, later, whole, unlike⟩ := last other before
          refine ⟨earlier, later ++ [item], by rw [whole]; simp, ?_⟩
          intro following among
          rcases List.mem_append.mp among with inside | end'
          · exact unlike following inside
          · rw [List.mem_singleton.mp end']
            exact Ne.symm different

end

/-! ## Writing attributes -/

def quotedAttribute (name value : Text) : Text := name ++ '=' :: '"' :: (value ++ ['"'])

/-- What is read from a text is written with one attribute for each name, in the order in which the names
appear first, and with the last value under the name. -/
theorem exists_written {α : Type} {name value : α → Text} {items : List α} {text : Text}
    (nonempty : items ≠ [])
    (read : attributes (.name []) text = items.map fun item => (name item, value item)) :
    ∃ kept : List α, kept ≠ [] ∧ kept.map name = (items.map name).eraseDups ∧
      (∀ item ∈ kept, IsLastNamed name item items) ∧
      htmlAttributes text =
        Text.join [' '] (kept.map fun item => writtenAttribute (name item, value item)) := by
  obtain ⟨kept, folded, names, -, last⟩ := exists_kept items
  have anyKept : kept ≠ [] := by
    rintro rfl
    obtain ⟨first, others, rfl⟩ := List.exists_cons_of_ne_nil nonempty
    rw [List.map_cons, List.eraseDups_cons] at names
    cases names
  refine ⟨kept, anyKept, names, last, ?_⟩
  rw [htmlAttributes, read, folded]
  obtain ⟨first, others, rfl⟩ := List.exists_cons_of_ne_nil anyKept
  change Text.join [' '] (List.map writtenAttribute (List.map _ (first :: others))) = _
  rw [List.map_map]
  rfl

theorem ReadsAttributes.htmlAttributes_of_nil {text rest : Text} (reads : ReadsAttributes text [] rest) :
    htmlAttributes text = text.flatMap quoteForm := by
  rw [htmlAttributes, reads.attributes_eq]
  rfl

/-- A text is in one way a row of attributes with a rest behind them. If it has none, all of its quotes are
escaped. Otherwise one attribute is written for each name. There are no quotes in the values, and quotes in
a name are those that the text has there, between two attributes or before the first. -/
theorem htmlAttributes_unquoted_or (text : Text) :
    ∃ (sources : List AttributeSource) (rest : Text),
      ReadsAttributes text sources rest ∧
        (∀ others remainder, ReadsAttributes text others remainder →
          others = sources ∧ remainder = rest) ∧
        (sources = [] ∧ htmlAttributes text = text.flatMap quoteForm ∧ Unquoted (htmlAttributes text) ∨
          sources ≠ [] ∧ ∃ kept : List AttributeSource, kept ≠ [] ∧
            kept.map AttributeSource.trimmedName =
                (sources.map AttributeSource.trimmedName).eraseDups ∧
              (∀ source ∈ kept, IsLastNamed AttributeSource.trimmedName source sources) ∧
              htmlAttributes text = Text.join [' '] (kept.map fun source =>
                quotedAttribute source.trimmedName (source.trimmedValue.flatMap quoteForm)) ∧
              ∀ source ∈ kept, Unquoted (source.trimmedValue.flatMap quoteForm) ∧
                (Unquoted source.trimmedName ↔ Unquoted source.name)) := by
  obtain ⟨sources, rest, reads, -⟩ := exists_sources_of_hasRead AttributeCursor.hasRead_start text
  refine ⟨sources, rest, reads, fun others remainder => reads.unique, ?_⟩
  by_cases nonempty : sources = []
  · subst nonempty
    have written := reads.htmlAttributes_of_nil
    exact .inl ⟨rfl, written, written ▸ unquoted_flatMap_quoteForm text⟩
  · obtain ⟨kept, anyKept, names, last, written⟩ := exists_written nonempty reads.attributes_eq
    exact .inr ⟨nonempty, kept, anyKept, names, last, written,
      fun source _ => ⟨unquoted_flatMap_quoteForm _, unquoted_trim_iff⟩⟩

/-- A quote between two attributes is written as it stands, in the name of the second one. -/
theorem htmlAttributes_quote_in_name :
    ¬∀ text : Text, Unquoted (htmlAttributes text) ∨
      ∃ pairs : List (Text × Text), pairs ≠ [] ∧
        htmlAttributes text =
          Text.join [' '] (pairs.map fun (name, value) => quotedAttribute name value) ∧
        ∀ pair ∈ pairs, Unquoted pair.1 ∧ Unquoted pair.2 := by
  intro unquoted
  have written : htmlAttributes "x' y=\"z\"".toList = "x' y=\"z\"".toList := by decide +kernel
  rcases unquoted "x' y=\"z\"".toList with ⟨single, -⟩ | ⟨pairs, -, same, unquoted⟩
  · rw [written] at single
    exact single (by decide)
  · have quote : '\'' ∈ Text.join [' ']
        (pairs.map fun (name, value) => quotedAttribute name value) := by
      rw [← same, written]
      decide
    rcases Text.mem_join quote with between | ⟨piece, among, inside⟩
    · exact absurd between (by decide)
    · obtain ⟨⟨name, value⟩, member, rfl⟩ := List.mem_map.mp among
      have outside := unquoted _ member
      simp [quotedAttribute, outside.1.1, outside.2.1] at inside

end Escape

end Stencil

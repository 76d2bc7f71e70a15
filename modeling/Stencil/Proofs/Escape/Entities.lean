import Stencil.Escape.Html
import Stencil.Proofs.Escape.Reading

/-!
# Entities

Text is written for a page with five entities. Read in one pass, in which each of the five is replaced by
its character, it is the text again, also where the text has had entities of its own.
-/

set_option autoImplicit false

namespace Stencil.Escape

/-- The entities that are written, with what they stand for. -/
def htmlEntities : List (Text × Char) :=
  [("&amp;".toList, '&'), ("&lt;".toList, '<'), ("&gt;".toList, '>'), ("&quot;".toList, '"'),
    ("&#39;".toList, '\'')]

/-- Reads text in which each of the entities stands for its character. -/
def htmlReader : Reader Char where
  escape? text := htmlEntities.findSome? fun (entity, character) =>
    (Text.dropLiteral? entity text).map fun rest => ([character], rest)
  shorter := by
    intro text rest units found
    obtain ⟨⟨entity, character⟩, member, dropped⟩ := List.exists_of_findSome?_eq_some found
    obtain ⟨after, starts, same⟩ := Option.map_eq_some_iff.mp dropped
    cases same
    have nonempty : ∀ entity ∈ htmlEntities, 0 < entity.1.length := by decide
    have positive : 0 < entity.length := nonempty _ member
    rw [Text.dropLiteral?_eq_some_iff.mp starts, List.length_append]
    omega
  plain character := [character]

/-- A character is written as its entity, or it has none and stands for itself. -/
theorem htmlEntity_cases (character : Char) :
    (htmlEntity character, character) ∈ htmlEntities ∨
      htmlEntity character = [character] ∧ character ∉ htmlEntities.map Prod.snd := by
  fun_cases htmlEntity character with
  | case6 _ amp less greater double single =>
      right
      simp only [htmlEntities, List.map_cons, List.map_nil, List.mem_cons, List.not_mem_nil, or_false,
        not_or, true_and]
      exact ⟨amp, less, greater, double, single⟩
  | _ => exact .inl (by decide)

theorem exists_of_mem_htmlEntities {entity : Text × Char} (member : entity ∈ htmlEntities) :
    ∃ name, entity.1 = '&' :: name ∧ '&' ∉ name := by
  have marked : ∀ entity ∈ htmlEntities, entity.1 = '&' :: entity.1.tail ∧ '&' ∉ entity.1.tail := by
    decide
  exact ⟨_, marked entity member⟩

theorem escape?_htmlReader_of_ne {character : Char} (different : character ≠ '&') (rest : Text) :
    htmlReader.escape? (character :: rest) = none := by
  rw [htmlReader, List.findSome?_eq_none_iff]
  intro entity member
  obtain ⟨name, marked, -⟩ := exists_of_mem_htmlEntities member
  rw [Option.map_eq_none_iff, marked, Text.dropLiteral?, if_neg different]

theorem reads_htmlEntity (character : Char) :
    htmlReader.Reads (htmlEntity character) [character] := by
  rcases htmlEntity_cases character with member | ⟨itself, unnamed⟩
  · apply Reader.reads_escape
    intro rest
    simp only [htmlEntities, List.mem_cons, List.not_mem_nil, or_false, Prod.mk.injEq] at member
    rcases member with ⟨form, rfl⟩ | ⟨form, rfl⟩ | ⟨form, rfl⟩ | ⟨form, rfl⟩ | ⟨form, rfl⟩ <;> rfl
  · rw [itself]
    apply Reader.reads_plain
    exact escape?_htmlReader_of_ne fun same => unnamed (same ▸ by decide)

/-- A text that starts with one of the entities. -/
def StartsEntity (text : Text) : Prop := ∃ entity ∈ htmlEntities, entity.1 <+: text

theorem StartsEntity.append {text : Text} (rest : Text) :
    StartsEntity text → StartsEntity (text ++ rest)
  | ⟨entity, member, starts⟩ => ⟨entity, member, starts.trans (List.prefix_append _ _)⟩

theorem startsEntity_of_suffix_htmlEntity {character : Char} {within : Text}
    (here : '&' :: within <:+ htmlEntity character) : StartsEntity ('&' :: within) := by
  rcases htmlEntity_cases character with member | ⟨itself, unnamed⟩
  · obtain ⟨name, marked, single⟩ := exists_of_mem_htmlEntities member
    dsimp only at marked
    rw [marked, List.suffix_cons_iff] at here
    rcases here with whole | later
    · have same : '&' :: within = htmlEntity character := whole.trans marked.symm
      exact ⟨_, member, same ▸ List.prefix_refl _⟩
    · exact absurd (later.subset List.mem_cons_self) single
  · rw [itself] at here
    obtain rfl : '&' = character := List.mem_singleton.mp (here.subset List.mem_cons_self)
    exact absurd (by decide) unnamed

theorem forall_mem_htmlEntity (character : Char) :
    ∀ written ∈ htmlEntity character, written ∉ ['<', '>', '"', '\''] := by
  rcases htmlEntity_cases character with member | ⟨itself, unnamed⟩
  · have harmless : ∀ entity ∈ htmlEntities,
        entity.1.all (fun written => written ∉ ['<', '>', '"', '\'']) = true := by decide
    exact forall_mem_of_all (harmless _ member)
  · intro written inside dangerous
    rw [itself, List.mem_singleton] at inside
    subst inside
    exact unnamed (List.mem_cons_of_mem '&' dangerous)

theorem read_html (text : Text) : htmlReader.read (html text) = text :=
  (Reader.reads_flatMap_self fun character _ => reads_htmlEntity character).read_eq

theorem html_append (left right : Text) : html (left ++ right) = html left ++ html right :=
  List.flatMap_append

/-- Text that is written for a page has no characters with a meaning of their own but the marks that start
an entity, and the text is read from it, so that no two texts are written in the same way. What is
written one after the other is the text of both. -/
theorem html_safe_and_reversible :
    (∀ text, (∀ written ∈ html text, written ∉ ['<', '>', '"', '\'']) ∧
      (∀ after, '&' :: after <:+ html text → StartsEntity ('&' :: after)) ∧
        htmlReader.read (html text) = text) ∧
      Function.Injective html ∧
        ∀ left right, html (left ++ right) = html left ++ html right := by
  refine ⟨fun text => ⟨?_, ?_, read_html text⟩, Function.LeftInverse.injective read_html, html_append⟩
  · intro written member
    obtain ⟨character, -, inside⟩ := List.mem_flatMap.mp member
    exact forall_mem_htmlEntity character written inside
  · intro after here
    exact starts_of_suffix_flatMap StartsEntity.append
      (fun _ _ _ => startsEntity_of_suffix_htmlEntity) here

end Stencil.Escape

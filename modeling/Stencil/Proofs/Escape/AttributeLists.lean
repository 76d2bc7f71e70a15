import Stencil.Proofs.Escape.Attributes

/-!
# Lists of attributes

A text in which attributes stand one after the other, with blanks around their names, is written anew with
one attribute for each name, in the order in which the names appear first, and with the value that stands
last under the name.
-/

set_option autoImplicit false

namespace Stencil.Escape

/-- An attribute with blanks around its name, as it stands in a list of attributes. -/
structure ListedAttribute where
  before : Text
  name : Text
  after : Text
  /-- The number of spaces before the value. -/
  spaces : Nat
  value : Text
  blank_before : before.Blank
  blank_after : after.Blank
  name_ne_nil : name ≠ []
  name_trimmed : name.Trimmed
  name_ends : '=' ∉ name
  value_ends : '"' ∉ value

namespace ListedAttribute

def text (source : ListedAttribute) : Text :=
  source.before ++ (source.name ++ (source.after ++
    '=' :: (List.replicate source.spaces ' ' ++ '"' :: (source.value ++ ['"']))))

/-- The name and the value that are read. -/
def pair (source : ListedAttribute) : Text × Text := (source.name, source.value.trim)

def IsLastIn (source : ListedAttribute) (attributes : List ListedAttribute) : Prop :=
  IsLastNamed ListedAttribute.name source attributes

end ListedAttribute

/-! ## Reading a list -/

namespace ListedAttribute

/-- The attribute as it is read: the blanks belong to its name. -/
def source (listed : ListedAttribute) : AttributeSource where
  name := listed.before ++ (listed.name ++ listed.after)
  spaces := listed.spaces
  value := listed.value
  name_ne_nil := by simp [listed.name_ne_nil]
  name_ends := by
    have visible : isBlank '=' = false := by decide
    refine not_opensValue_of_not_mem ?_
    simp [listed.name_ends, listed.blank_before.not_mem visible, listed.blank_after.not_mem visible]
  value_ends := listed.value_ends

theorem text_source (listed : ListedAttribute) : listed.source.text = listed.text := by
  simp [source, AttributeSource.text, text]

theorem trimmed_source (listed : ListedAttribute) :
    (listed.source.trimmedName, listed.source.trimmedValue) = listed.pair :=
  congrArg (·, listed.value.trim)
    (Text.trim_append_append listed.blank_before listed.name_trimmed listed.blank_after)

end ListedAttribute

theorem readsAttributes_listed (listed : List ListedAttribute) {rest : Text} (blank : rest.Blank) :
    ReadsAttributes (listed.flatMap ListedAttribute.text ++ rest)
      (listed.map ListedAttribute.source) rest where
  whole := by
    rw [List.flatMap_map]
    simp only [ListedAttribute.text_source]
  finished source after same := by
    have unequal : '=' ∉ rest := blank.not_mem (by decide)
    rw [same] at unequal
    simp [AttributeSource.text] at unequal

theorem attributes_flatMap_append (listed : List ListedAttribute) {rest : Text} (blank : rest.Blank) :
    attributes (.name []) (listed.flatMap ListedAttribute.text ++ rest) =
      listed.map ListedAttribute.pair := by
  rw [(readsAttributes_listed listed blank).attributes_eq, List.map_map]
  exact List.map_congr_left fun source _ => source.trimmed_source

/-! ## Writing a list -/

/-- How a character of a value is written that has no double quotes. -/
def singleQuoteForm (character : Char) : Text :=
  if character = '\'' then "&quot;".toList else [character]

theorem quotes_of_not_mem {text : Text} (unquoted : '"' ∉ text) :
    quotes text = text.flatMap singleQuoteForm := by
  rw [quotes, List.flatMap_def, List.flatMap_def, List.map_congr_left]
  intro character member
  have other : character ≠ '"' := fun same => unquoted (same ▸ member)
  simp only [singleQuoteForm, other, or_false]

theorem ListedAttribute.writtenAttribute_pair (source : ListedAttribute) :
    writtenAttribute source.pair =
      quotedAttribute source.name (source.value.trim.flatMap singleQuoteForm) := by
  obtain ⟨before, after, whole, -, -, -⟩ := source.value.exists_eq_append_trim
  have unquoted : '"' ∉ source.value.trim := by
    intro member
    apply source.value_ends
    rw [whole]
    exact List.mem_append_right _ (List.mem_append_left _ member)
  rw [writtenAttribute, pair, quotes_of_not_mem unquoted]
  rfl

/-- A list of attributes is written with one attribute for each name, in the order in which the names appear
first. Its value is the last one under the name, without blanks at either end and with single quotes as
entities. -/
theorem htmlAttributes_listed {listed : List ListedAttribute} {rest : Text} (nonempty : listed ≠ [])
    (blank : rest.Blank) :
    ∃ kept : List ListedAttribute,
      kept.map ListedAttribute.name = (listed.map ListedAttribute.name).eraseDups ∧
        (∀ source ∈ kept, source.IsLastIn listed) ∧
        htmlAttributes (listed.flatMap ListedAttribute.text ++ rest) =
          Text.join [' '] (kept.map fun source =>
            quotedAttribute source.name (source.value.trim.flatMap singleQuoteForm)) := by
  obtain ⟨kept, -, names, last, written⟩ := exists_written nonempty
    (attributes_flatMap_append listed blank)
  refine ⟨kept, names, last, written.trans ?_⟩
  exact congrArg _ (List.map_congr_left fun source _ => source.writtenAttribute_pair)

/-- An attribute with a name of one letter, which stands between a tab and a space. -/
def letterAttribute (letter : Char) (value : Text) (visible : isBlank letter = false)
    (plain : letter ≠ '=') (value_ends : '"' ∉ value) : ListedAttribute where
  before := ['\t']
  name := [letter]
  after := [' ']
  spaces := 1
  value := value
  blank_before := forall_mem_of_all (by decide)
  blank_after := forall_mem_of_all (by decide)
  name_ne_nil := List.cons_ne_nil _ _
  name_trimmed := ⟨fun starts => by cases starts; exact visible, fun ends => by cases ends; exact visible⟩
  name_ends := by simpa using plain.symm
  value_ends := value_ends

def repeatedName : List ListedAttribute :=
  [letterAttribute 'a' "1".toList (by decide) (by decide) (by decide),
    letterAttribute 'b' "x='y'".toList (by decide) (by decide) (by decide),
    letterAttribute 'a' " 2 ".toList (by decide) (by decide) (by decide)]

theorem htmlAttributes_listed_repeatedName :
    repeatedName ≠ [] ∧ Text.Blank ['\n'] ∧
      ∃ kept : List ListedAttribute,
        kept.map ListedAttribute.name = (repeatedName.map ListedAttribute.name).eraseDups ∧
          (∀ source ∈ kept, source.IsLastIn repeatedName) ∧
          htmlAttributes (repeatedName.flatMap ListedAttribute.text ++ ['\n']) =
            Text.join [' '] (kept.map fun source =>
              quotedAttribute source.name (source.value.trim.flatMap singleQuoteForm)) := by
  have nonempty : repeatedName ≠ [] := List.cons_ne_nil _ _
  have blank : Text.Blank ['\n'] := forall_mem_of_all (by decide)
  exact ⟨nonempty, blank, htmlAttributes_listed nonempty blank⟩

example : htmlAttributes "\ta = \"1\"\tb = \"x='y'\"\ta = \" 2 \"\n".toList =
    "a=\"2\" b=\"x=&quot;y&quot;\"".toList := by decide +kernel

end Stencil.Escape

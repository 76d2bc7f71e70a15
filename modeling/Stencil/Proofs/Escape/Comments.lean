import Stencil.Escape.Style
import Stencil.Proofs.Escape.Reading
import Stencil.Proofs.Numeral.Digits
import Stencil.Proofs.Text.Searching

/-!
# Comments of style sheets

Every text is divided in exactly one way into pieces and the comments between them. The pieces are what is
written, one after the other, each of their characters as itself or as a numeric entity, and they are
read back.
-/

set_option autoImplicit false

namespace Stencil.Escape

def commentOpener : Text := "/*".toList

def commentCloser : Text := "*/".toList

/-- A text in pieces with comments between them. -/
inductive Division where
  /-- What follows the last comment. No closer comes after an opener in it. -/
  | ended (text : Text)
      (unclosed : ∀ before after, text = before ++ (commentOpener ++ after) →
        ¬commentCloser <:+: after)
  /-- A piece up to the first opener, the comment up to the first closer, and what follows. -/
  | commented (piece comment : Text) (opens : Text.IsFirst commentOpener piece)
      (unended : ¬commentCloser <:+: comment) (rest : Division)

namespace Division

def text : Division → Text
  | ended text _ => text
  | commented piece comment _ _ rest =>
      piece ++ (commentOpener ++ (comment ++ (commentCloser ++ rest.text)))

def kept : Division → Text
  | ended text _ => text
  | commented piece _ _ _ rest => piece ++ rest.kept

theorem isFirst_commentCloser {comment : Text} (unended : ¬commentCloser <:+: comment) :
    Text.IsFirst commentCloser comment :=
  Text.isFirst_pair_of_not_isInfix (by decide) unended

theorem exists_text_eq (text : Text) : ∃ division : Division, division.text = text := by
  induction length : text.length using Nat.strongRecOn generalizing text with
  | ind count ih =>
      cases opened : Text.breakOn? commentOpener text with
      | none =>
          refine ⟨.ended text ?_, rfl⟩
          rintro before after rfl
          exact absurd (List.infix_append' _ _ _) (Text.not_isInfix_of_breakOn? opened)
      | some found =>
          obtain ⟨piece, rest⟩ := found
          have whole := Text.append_eq_of_breakOn? opened
          have first := Text.isFirst_of_breakOn? opened
          cases closed : Text.breakOn? commentCloser rest with
          | none =>
              -- What follows another opener is part of what follows the first one.
              refine ⟨.ended text ?_, rfl⟩
              intro before after later inside
              have within : after <:+ rest := first.suffix (whole.symm.trans later)
              exact Text.not_isInfix_of_breakOn? closed (inside.trans within.isInfix)
          | some found =>
              obtain ⟨comment, after⟩ := found
              have inside := Text.append_eq_of_breakOn? closed
              have unended : ¬commentCloser <:+: comment :=
                (Text.isFirst_of_breakOn? closed).not_isInfix (by decide)
              have shorter : after.length < count := by
                rw [← length, whole, inside]
                simp only [List.length_append]
                have : 0 < commentOpener.length := by decide
                omega
              obtain ⟨division, same⟩ := ih after.length shorter after rfl
              refine ⟨.commented piece comment first unended division, ?_⟩
              rw [Division.text, same, ← inside, ← whole]

theorem eq_of_text_eq {division other : Division} (same : division.text = other.text) :
    division = other := by
  -- A comment of one division would come after an opener in the last piece of the other.
  have apart {last piece comment : Text} {rest : Division}
      (unclosed : ∀ before after, last = before ++ (commentOpener ++ after) →
        ¬commentCloser <:+: after)
      (whole : last = piece ++ (commentOpener ++ (comment ++ (commentCloser ++ rest.text)))) : False :=
    unclosed piece _ whole ⟨comment, rest.text, by rw [List.append_assoc]⟩
  induction division generalizing other with
  | ended last unclosed =>
      cases other with
      | ended last' _ =>
          obtain rfl : last = last' := same
          rfl
      | commented piece comment _ _ rest => exact (apart unclosed same).elim
  | commented piece comment opens unended rest ih =>
      cases other with
      | ended last unclosed => exact (apart unclosed same.symm).elim
      | commented piece' comment' opens' unended' rest' =>
          obtain ⟨rfl, inner⟩ := opens.append_inj opens' same
          obtain ⟨rfl, later⟩ :=
            (isFirst_commentCloser unended).append_inj (isFirst_commentCloser unended') inner
          obtain rfl := ih later
          rfl

end Division

/-! ## Removing comments -/

theorem withoutComments_none_cons {head : Char} {rest : Text}
    (plain : ¬commentOpener <+: head :: rest) :
    withoutComments none (head :: rest) = head :: withoutComments none rest := by
  rw [withoutComments]
  rintro after rfl rfl
  exact plain ⟨after, rfl⟩

theorem withoutComments_some_cons {comment rest : Text} {head : Char}
    (plain : ¬commentCloser <+: head :: rest) :
    withoutComments (some comment) (head :: rest) =
      withoutComments (some (head :: comment)) rest := by
  rw [withoutComments]
  rintro after rfl rfl
  exact plain ⟨after, rfl⟩

theorem withoutComments_opener {piece : Text} (opens : Text.IsFirst commentOpener piece)
    (rest : Text) :
    withoutComments none (piece ++ (commentOpener ++ rest)) =
      piece ++ withoutComments (some []) rest := by
  induction piece with
  | nil => rfl
  | cons head piece ih =>
      rw [List.cons_append, withoutComments_none_cons (opens.not_isPrefix rest), ih opens.of_cons,
        List.cons_append]

theorem withoutComments_closer {comment : Text} (ends : Text.IsFirst commentCloser comment)
    (taken rest : Text) :
    withoutComments (some taken) (comment ++ (commentCloser ++ rest)) = withoutComments none rest := by
  induction comment generalizing taken with
  | nil => rfl
  | cons head comment ih =>
      rw [List.cons_append, withoutComments_some_cons (ends.not_isPrefix rest), ih ends.of_cons]

theorem withoutComments_unopened {text : Text} (unopened : ¬commentOpener <:+: text) :
    withoutComments none text = text := by
  induction text with
  | nil => rfl
  | cons head rest ih =>
      rw [List.infix_cons_iff, not_or] at unopened
      rw [withoutComments_none_cons unopened.1, ih unopened.2]

/-- Without a closer an open comment is no comment. -/
theorem withoutComments_unended {text : Text} (unended : ¬commentCloser <:+: text) (taken : Text) :
    withoutComments (some taken) text = commentOpener ++ (taken.reverse ++ text) := by
  induction text generalizing taken with
  | nil => rw [List.append_nil]; rfl
  | cons head rest ih =>
      rw [List.infix_cons_iff, not_or] at unended
      rw [withoutComments_some_cons unended.1, ih unended.2, List.reverse_cons, List.append_assoc]
      rfl

theorem withoutComments_text (division : Division) :
    withoutComments none division.text = division.kept := by
  induction division with
  | ended last unclosed =>
      rw [Division.text, Division.kept]
      cases opened : Text.breakOn? commentOpener last with
      | none => exact withoutComments_unopened (Text.not_isInfix_of_breakOn? opened)
      | some found =>
          have whole := Text.append_eq_of_breakOn? opened
          conv => lhs; rw [whole]
          rw [withoutComments_opener (Text.isFirst_of_breakOn? opened),
            withoutComments_unended (unclosed _ _ whole)]
          exact whole.symm
  | commented piece comment opens unended rest ih =>
      rw [Division.text, Division.kept, withoutComments_opener opens,
        withoutComments_closer (Division.isFirst_commentCloser unended), ih]

/-! ## Numeric entities -/

def IsStyleCharacter (character : Char) : Prop :=
  character.isAlphanum = true ∨ character ∈ ['\t', '\n', '\r']

/-- Text of characters that stand for themselves and of numeric entities without leading zeros. -/
inductive IsStyleText : Text → Prop where
  | nil : IsStyleText []
  | plain {character : Char} {rest : Text} (itself : IsStyleCharacter character)
      (later : IsStyleText rest) : IsStyleText (character :: rest)
  | entity {digits rest : Text} (decimal : Numeral.IsDecimal digits) (later : IsStyleText rest) :
      IsStyleText ('&' :: '#' :: (digits ++ ';' :: rest))

/-- The character of a numeric entity at the start of a text, with the text after it. -/
def styleEntity? : Text → Option (Text × Text)
  | '&' :: '#' :: rest =>
      match rest.dropWhile Char.isDigit with
      | ';' :: after =>
          (Numeral.digits? (rest.takeWhile Char.isDigit)).bind fun codePoint =>
            if codePoint.isValidChar then some ([Char.ofNat codePoint], after) else none
      | _ => none
  | _ => none

def styleReader : Reader Char where
  escape? := styleEntity?
  shorter := by
    intro text rest units found
    fun_cases styleEntity? text with
    | case1 text after semicolon =>
        simp only [styleEntity?, semicolon, Option.bind_eq_some_iff] at found
        obtain ⟨codePoint, -, found⟩ := found
        split at found
        · cases found
          have dropped : (text.dropWhile Char.isDigit).length ≤ text.length :=
            (List.dropWhile_suffix _).length_le
          rw [semicolon] at dropped
          simp only [List.length_cons] at dropped ⊢
          omega
        · cases found
    | _ => simp_all [styleEntity?]
  plain character := [character]

theorem styleForm_cases (character : Char) :
    styleForm character = [character] ∧ IsStyleCharacter character ∨
      styleForm character = '&' :: '#' :: (Numeral.ofNat character.toNat ++ [';']) := by
  rw [styleForm]
  split
  · next plain => exact .inl ⟨rfl, by simpa [IsStyleCharacter, or_assoc] using plain⟩
  · exact .inr rfl

theorem reads_entity (character : Char) :
    styleReader.Reads ('&' :: '#' :: (Numeral.ofNat character.toNat ++ [';'])) [character] := by
  apply Reader.reads_escape
  intro rest
  have digits : ∀ digit ∈ Numeral.ofNat character.toNat, digit.isDigit = true :=
    fun _ => Numeral.isDigit_of_mem_ofNat
  have after : (Numeral.ofNat character.toNat ++ ';' :: rest).dropWhile Char.isDigit = ';' :: rest := by
    rw [List.dropWhile_append_of_pos digits]
    rfl
  have number : (Numeral.ofNat character.toNat ++ ';' :: rest).takeWhile Char.isDigit =
      Numeral.ofNat character.toNat := by
    rw [List.takeWhile_append_of_pos digits]
    exact List.append_nil _
  change styleEntity? ('&' :: '#' :: (Numeral.ofNat character.toNat ++ [';'] ++ rest)) = _
  have valid : character.toNat.isValidChar := character.valid
  rw [List.append_assoc, List.singleton_append, styleEntity?, after, number, Numeral.digits?_ofNat]
  simp only [Option.bind_some, valid, if_true, Char.ofNat_toNat]

theorem styleEntity?_of_ne {character : Char} (different : character ≠ '&') (rest : Text) :
    styleEntity? (character :: rest) = none := by
  rw [styleEntity?]
  intro after same
  exact different (List.cons.inj same).1

theorem reads_styleForm (character : Char) : styleReader.Reads (styleForm character) [character] := by
  rcases styleForm_cases character with ⟨itself, plain⟩ | written
  · rw [itself]
    apply Reader.reads_plain
    apply styleEntity?_of_ne
    rintro rfl
    exact absurd plain (by rw [IsStyleCharacter]; decide)
  · rw [written]
    exact reads_entity character

theorem isStyleText_flatMap (text : Text) : IsStyleText (text.flatMap styleForm) := by
  induction text with
  | nil => exact .nil
  | cons head rest ih =>
      rw [List.flatMap_cons]
      rcases styleForm_cases head with ⟨itself, plain⟩ | written
      · rw [itself]
        exact .plain plain ih
      · rw [written]
        simpa using IsStyleText.entity (Numeral.isDecimal_ofNat head.toNat) ih

/-- A text has exactly one division. Its pieces are written with numeric entities, and reading these gives
the pieces back. -/
theorem style_division (text : Text) :
    ∃ division : Division, division.text = text ∧
      (∀ other : Division, other.text = text → other = division) ∧
        IsStyleText (style text) ∧ styleReader.read (style text) = division.kept := by
  obtain ⟨division, rfl⟩ := Division.exists_text_eq text
  refine ⟨division, rfl, fun other => Division.eq_of_text_eq, isStyleText_flatMap _, ?_⟩
  have kept : styleReader.Reads (division.kept.flatMap styleForm) division.kept :=
    Reader.reads_flatMap_self fun character _ => reads_styleForm character
  rw [style, withoutComments_text, kept.read_eq]

end Stencil.Escape

import Mathlib.Data.List.TakeWhile
import Stencil.Proofs.Header.Printing
import Stencil.Proofs.Text.Trimming

/-!
# What a header is made of

Each step of reading a header takes a run of characters as far as it goes, so that a text can be divided
in only one way into the parts of a header. A header of a loop is read if there is such a division, and
then its name and its path are the result.
-/

set_option autoImplicit false

namespace Stencil

namespace Header

section

variable {belongs : Char → Bool} {text word rest : Text}

theorem stops_dropWhile (belongs : Char → Bool) (text : Text) :
    Stops belongs (text.dropWhile belongs) := by
  intro head starts
  have outside := List.head?_dropWhile_not belongs text
  rw [starts] at outside
  exact outside

theorem Stops.append (stopsWord : Stops belongs word) (stopsRest : Stops belongs rest) :
    Stops belongs (word ++ rest) := by
  intro head starts
  cases word with
  | nil => exact stopsRest head starts
  | cons first further => exact stopsWord head starts

/-- A run is followed by what does not go on with its class. -/
theorem exists_eq_append_dropWhile (belongs : Char → Bool) (text : Text) :
    ∃ word, (∀ character ∈ word, belongs character = true) ∧
      text = word ++ text.dropWhile belongs :=
  ⟨text.takeWhile belongs, fun _ => List.mem_takeWhile_imp,
    List.takeWhile_append_dropWhile.symm⟩

theorem run?_eq_some_iff :
    run? belongs text = some (word, rest) ↔
      word ≠ [] ∧ (∀ character ∈ word, belongs character = true) ∧ Stops belongs rest ∧
        text = word ++ rest := by
  constructor
  · intro found
    rw [run?] at found
    split at found
    · cases found
    · next nonempty =>
        cases found
        exact ⟨nonempty, fun _ => List.mem_takeWhile_imp, stops_dropWhile belongs text,
          List.takeWhile_append_dropWhile.symm⟩
  · rintro ⟨nonempty, all, stops, rfl⟩
    exact run?_append nonempty all stops

/-- There is only one way to cut a text at the end of its first run. -/
theorem append_inj_of_stops {word' rest' : Text} (all : ∀ character ∈ word, belongs character = true)
    (stops : Stops belongs rest) (all' : ∀ character ∈ word', belongs character = true)
    (stops' : Stops belongs rest') (same : word ++ rest = word' ++ rest') :
    word = word' ∧ rest = rest' := by
  constructor
  · rw [← takeWhile_append_of_stops all stops, same, takeWhile_append_of_stops all' stops']
  · rw [← dropWhile_append_of_stops all stops, same, dropWhile_append_of_stops all' stops']

end

variable {text rest keyword : Text}

theorem exists_gap_of_dropSeparators? (dropped : dropSeparators? text = some rest) :
    ∃ gap, gap ≠ [] ∧ IsGap gap ∧ text = gap ++ rest := by
  cases text with
  | nil => cases dropped
  | cons head further =>
      rw [dropSeparators?] at dropped
      split at dropped
      · next white =>
          cases dropped
          obtain ⟨gap, blank, whole⟩ := exists_eq_append_dropWhile Char.isWhitespace further
          refine ⟨head :: gap, List.cons_ne_nil _ _, List.forall_mem_cons.mpr ⟨white, blank⟩, ?_⟩
          rw [List.cons_append, ← whole]
      · cases dropped

theorem exists_gap_of_dropKeyword? (dropped : dropKeyword? keyword text = some rest) :
    ∃ gap, gap ≠ [] ∧ IsGap gap ∧ text = keyword ++ (gap ++ rest) := by
  obtain ⟨after, starts, separated⟩ := Option.bind_eq_some_iff.mp dropped
  obtain ⟨gap, nonempty, blank, rfl⟩ := exists_gap_of_dropSeparators? separated
  exact ⟨gap, nonempty, blank, Text.dropLiteral?_eq_some_iff.mp starts⟩

end Header

namespace Iteration

variable {content : Text} {iteration : Iteration}

namespace Parts

theorem WellFormed.eq_of_text_eq {parts other : Parts} (wellFormed : parts.WellFormed)
    (wellFormed' : other.WellFormed) (same : parts.text = other.text) : parts = other := by
  obtain ⟨beforeKeyword, same⟩ := Header.append_inj_of_stops wellFormed.beforeKeyword
    (Header.stops_for _) wellFormed'.beforeKeyword (Header.stops_for _) same
  obtain ⟨afterKeyword, same⟩ := Header.append_inj_of_stops wellFormed.afterKeyword.2
    (wellFormed.stops_name _) wellFormed'.afterKeyword.2 (wellFormed'.stops_name _)
    (List.append_cancel_left same)
  obtain ⟨name, same⟩ := Header.append_inj_of_stops wellFormed.name (wellFormed.stops_afterName _)
    wellFormed'.name (wellFormed'.stops_afterName _) same
  obtain ⟨afterName, same⟩ := Header.append_inj_of_stops wellFormed.afterName.2 (Header.stops_in _)
    wellFormed'.afterName.2 (Header.stops_in _) same
  obtain ⟨afterIn, same⟩ := Header.append_inj_of_stops wellFormed.afterIn.2 (wellFormed.stops_path _)
    wellFormed'.afterIn.2 (wellFormed'.stops_path _) (List.append_cancel_left same)
  obtain ⟨path, afterPath⟩ := Header.append_inj_of_stops wellFormed.path wellFormed.stops_afterPath
    wellFormed'.path wellFormed'.stops_afterPath same
  cases parts
  cases other
  simp_all

end Parts

theorem exists_parts_of_read (success : read content = .ok iteration) :
    ∃ parts : Parts, parts.WellFormed ∧ parts.text = content ∧
      iteration = ⟨parts.name, parts.path⟩ := by
  rw [read] at success
  split at success
  · cases success
  · next header =>
      split at success
      · next blank =>
          cases success
          simp only [Option.bind_eq_bind, Option.bind_eq_some_iff, Option.pure_def,
            Option.some.injEq, Prod.exists, Prod.mk.injEq] at header
          -- Each step of reading gives one part and the gap after it.
          obtain ⟨afterFor, keyword, name, afterName, nameRun, afterGap, separated, afterIn,
            connective, path, afterPath, pathRun, rfl, rfl, rfl⟩ := header
          obtain ⟨gap, isGap, whole⟩ := Header.exists_eq_append_dropWhile Char.isWhitespace content
          obtain ⟨gapFor, forNonempty, isGapFor, starts⟩ := Header.exists_gap_of_dropKeyword? keyword
          obtain ⟨nameNonempty, named, -, rfl⟩ := Header.run?_eq_some_iff.mp nameRun
          obtain ⟨gapName, gapNonempty, isGapName, rfl⟩ := Header.exists_gap_of_dropSeparators? separated
          obtain ⟨gapIn, inNonempty, isGapIn, rfl⟩ := Header.exists_gap_of_dropKeyword? connective
          obtain ⟨pathNonempty, pathed, -, rfl⟩ := Header.run?_eq_some_iff.mp pathRun
          exact ⟨⟨gap, gapFor, name, gapName, gapIn, path, afterPath⟩,
            ⟨isGap, ⟨forNonempty, isGapFor⟩, nameNonempty, named, ⟨gapNonempty, isGapName⟩,
              ⟨inNonempty, isGapIn⟩, pathNonempty, pathed, Text.blank_of_trim_eq_nil blank⟩,
            (whole.trans (congrArg (gap ++ ·) starts)).symm, rfl⟩
      · cases success

/-- A header of a loop is read exactly if it can be divided into the parts of one. There is no other such
division then, and its name and its path are the result. -/
theorem read_follows_grammar (content : Text) :
    ((∃ iteration, read content = .ok iteration) ↔
        ∃ parts : Parts, parts.WellFormed ∧ parts.text = content) ∧
      ∀ parts : Parts, parts.WellFormed ∧ parts.text = content →
        read content = .ok ⟨parts.name, parts.path⟩ ∧
          ∀ other : Parts, other.WellFormed ∧ other.text = content → other = parts := by
  refine ⟨⟨?_, ?_⟩, ?_⟩
  · rintro ⟨iteration, success⟩
    obtain ⟨parts, wellFormed, whole, -⟩ := exists_parts_of_read success
    exact ⟨parts, wellFormed, whole⟩
  · rintro ⟨parts, wellFormed, rfl⟩
    exact ⟨_, wellFormed.read_text⟩
  · rintro parts ⟨wellFormed, rfl⟩
    exact ⟨wellFormed.read_text, fun other division => division.1.eq_of_text_eq wellFormed division.2⟩

/-- Only at the end of a header may there be blanks other than separators. -/
example : read " for in\tin  in.x\u2003".toList = .ok ⟨"in".toList, "in.x".toList⟩ := rfl

end Iteration

end Stencil

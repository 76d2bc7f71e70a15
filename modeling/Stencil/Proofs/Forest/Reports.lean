import Stencil.Proofs.Forest.Offences
import Stencil.Proofs.Forest.StackMachine

/-!
# Reported tags

Strict reading reports one finding. It is the first tag that opens a block where as many blocks are open
as are allowed, or, if there is no such tag, the offence that stands first. A finding is about a block tag
or about an opening delimiter that is left open, and it stands where that starts.
-/

set_option autoImplicit false

namespace Stencil

/-- What a finding is about: an opening delimiter that is left open, or a block tag. -/
inductive Finding.StandsIn (pairing : Pairing) : Finding → Prop where
  | opening {opening : Occurrence} :
      opening ∈ pairing.unterminated →
      StandsIn pairing ⟨opening.position, .unterminated opening.lexeme⟩
  | block {tag : Tag} {fault : Fault} :
      tag ∈ pairing.tags → tag.isBlock = true → (∀ lexeme, fault ≠ .unterminated lexeme) →
      StandsIn pairing ⟨tag.start, fault⟩

namespace Forest

variable {delimiters : Delimiters} {limit : Nat} {text : Text} {forest : Forest}
  {finding : Finding}

/-- Strict reading of a text reports a finding: the first tag that is refused for the blocks that are
open, or else the offence that stands first. -/
inductive Reports (delimiters : Delimiters) (limit : Nat) (text : Text) : Finding → Prop where
  | tooDeep {before after : List Tag} {opener : Tag} :
      (Pairing.ofText delimiters text).tags = before ++ opener :: after →
      StackMachine.run limit 0 (Pairing.ofText delimiters text).tags [] = .error before.length →
      Reports delimiters limit text ⟨opener.start, .tooDeep limit⟩
  | offence {forest : Forest} {finding : Finding} :
      ofTags limit (Pairing.ofText delimiters text).tags = .ok forest →
      forest.Offence (Pairing.ofText delimiters text).unterminated finding →
      (∀ other, forest.Offence (Pairing.ofText delimiters text).unterminated other →
        other ≠ finding → finding.position < other.position) →
      Reports delimiters limit text finding

theorem parse_strict_of_tooDeep {tooDeep : TooDeep}
    (nesting : ofTags limit (Pairing.ofText delimiters text).tags = .error tooDeep) :
    parse delimiters .strict limit text =
      .error (Finding.toError text ⟨tooDeep.position, .tooDeep tooDeep.limit⟩) := by
  simp only [parse, nesting]

theorem reports_iff_of_ofTags
    (nesting : ofTags limit (Pairing.ofText delimiters text).tags = .ok forest) :
    Reports delimiters limit text finding ↔
      Finding.earliest? (forest.allFindings (Pairing.ofText delimiters text).unterminated) =
        some finding := by
  obtain ⟨nested, -, flat⟩ := of_ofTags nesting
  have order := inOrder_of_parse (parse_lenient_eq_ok_iff.mpr nesting)
  have leftOpen := flat ▸ Pairing.leftOpen_ofText delimiters text
  have wide : ∀ tag ∈ forest.flatten, tag.start < tag.stop := by
    intro tag member
    exact Pairing.start_lt_stop_of_mem (flat ▸ member)
  rw [Finding.earliest?_eq_some_iff (pairwise_allFindings order wide leftOpen)]
  simp only [mem_allFindings_iff nested order leftOpen]
  constructor
  · rintro (⟨-, refused⟩ | ⟨made, offence, first⟩)
    · have follows := StackMachine.ofTags_follows_run limit (Pairing.ofText delimiters text).tags
      rw [refused] at follows
      obtain ⟨_, -, fails⟩ := follows
      rw [nesting] at fails
      cases fails
    · obtain rfl := Except.ok.inj (made.symm.trans nesting)
      exact ⟨offence, first⟩
  · rintro ⟨offence, first⟩
    exact .offence nesting offence first

/-- A strict reading fails exactly with the error of what it reports. -/
theorem parse_strict_eq_error_iff_reports {error : TemplateError} :
    parse delimiters .strict limit text = .error error ↔
      ∃ finding, Reports delimiters limit text finding ∧ error = finding.toError text := by
  cases nesting : ofTags limit (Pairing.ofText delimiters text).tags with
  | ok forest =>
      rw [parse_strict_eq_error_iff (parse_lenient_eq_ok_iff.mpr nesting)]
      simp only [reports_iff_of_ofTags nesting]
  | error tooDeep =>
      have follows := StackMachine.ofTags_follows_run limit (Pairing.ofText delimiters text).tags
      rw [parse_strict_of_tooDeep nesting, Except.error.injEq]
      constructor
      · rintro rfl
        obtain ⟨before, opener, after, flat, rfl, refused⟩ :=
          StackMachine.run_of_nestUnder_eq_error 0
            (map_eq_error_iff.mp nesting : nestUnder limit _ (StackMachine.families []) = _)
        rw [Nat.zero_add] at refused
        exact ⟨_, .tooDeep flat refused, rfl⟩
      · rintro ⟨finding, ⟨flat, refused⟩ | ⟨made, -, -⟩, rfl⟩
        · rw [refused, nesting] at follows
          obtain ⟨tag, found, same⟩ := follows
          rw [flat, List.getElem?_append_right (Nat.le_refl _), Nat.sub_self,
            List.getElem?_cons_zero, Option.some.injEq] at found
          cases same
          subst found
          rfl
        · rw [nesting] at made
          cases made

theorem mem_flatten_of_misplaced {single : Tag} (misplaced : forest.Misplaced single) :
    single ∈ forest.flatten := by
  obtain ⟨around, before, after, row, -⟩ := misplaced
  generalize same : before ++ single :: after = singles at row
  have among : single ∈ singles := by simp [← same]
  cases row with
  | outside => exact forest.singles_subset_flatten among
  | @inside group exposed _ =>
      obtain ⟨start, rest, whole⟩ :=
        exists_flatten_of_mem_allGroups (allGroups_of_mem_exposedGroups exposed)
      simp [whole, group.body.singles_subset_flatten among]

/-- An offence is about a tag of the forest or a delimiter that is left open. -/
theorem Offence.standsIn {pairing : Pairing} (nested : forest.WellNested none)
    (flat : forest.flatten = pairing.tags) (offence : forest.Offence pairing.unterminated finding) :
    finding.StandsIn pairing := by
  have stray {single : Tag} {fault : Fault} (misplaced : forest.Misplaced single)
      (other : ∀ lexeme, fault ≠ .unterminated lexeme) :
      Finding.StandsIn pairing ⟨single.start, fault⟩ := by
    have member := flat ▸ mem_flatten_of_misplaced misplaced
    obtain ⟨_, _, _, -, block, -⟩ := misplaced
    exact .block member block other
  cases offence with
  | unclosed member _ =>
      have opens := (mem_flatten_of_mem_allGroups member).1
      have block := Tag.isBlock_of_opens? (nested.of_mem_allGroups member).1
      exact .block (flat ▸ opens) block (by simp)
  | unexpected misplaced _ => exact stray misplaced (by simp)
  | unknown misplaced _ _ => exact stray misplaced (by simp)
  | unterminated member _ => exact .opening member

theorem Reports.standsIn (reports : Reports delimiters limit text finding) :
    finding.StandsIn (Pairing.ofText delimiters text) := by
  cases reports with
  | @tooDeep before after opener flat refused =>
      obtain ⟨start, refusedTag, rest, same, length, opensSome⟩ :=
        StackMachine.exists_opener_of_run_eq_error refused
      obtain ⟨family, opens⟩ := Option.isSome_iff_exists.mp opensSome
      obtain ⟨-, tails⟩ := List.append_inj (flat.symm.trans same) (by omega)
      obtain ⟨rfl, -⟩ := List.cons.inj tails
      exact .block (by simp [flat]) (Tag.isBlock_of_opens? opens) (by simp)
  | offence nesting offence _ =>
      obtain ⟨nested, -, flat⟩ := of_ofTags nesting
      exact offence.standsIn nested flat

end Forest

end Stencil

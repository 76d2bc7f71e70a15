import Stencil.Forest.Basic
import Stencil.Tag.Occurrence
import Stencil.Text.Place

/-!
# Malformed tags

In a well-formed template every opening delimiter is closed, every block has a closing tag, and
block tags have known keywords and stand where they may stand. What is inside of a closed verbatim
block need not be well-formed.
-/

set_option autoImplicit false

namespace Stencil

inductive Fault where
  /-- An opening delimiter without a closing one. -/
  | unterminated (delimiter : Text)
  /-- A block without a closing tag. -/
  | unclosed (family : Family)
  /-- A closing tag or `else` with no open block that it belongs to. -/
  | unexpected (keyword : Text)
  /-- A block tag with a keyword of no meaning. -/
  | unknown (keyword : Text)
  /-- A block inside of as many others as are allowed. -/
  | tooDeep (limit : Nat)
  deriving DecidableEq, Repr

/-- A malformed tag and where it starts. -/
structure TemplateError where
  place : Place
  fault : Fault
  deriving DecidableEq, Repr

def TemplateError.message (error : TemplateError) : String :=
  let place := s!"{error.place.line}:{error.place.column}"
  match error.fault with
  | .unterminated delimiter =>
      s!"unterminated tag at {place}: '{String.ofList delimiter}' is never closed"
  | .unclosed family =>
      let keyword := String.ofList family.opener
      s!"unclosed block at {place}: '{keyword}' has no matching '{String.ofList family.closer}'"
  | .unexpected keyword => s!"unexpected '{String.ofList keyword}' at {place}"
  | .unknown keyword => s!"unknown block tag '{String.ofList keyword}' at {place}"
  | .tooDeep limit => s!"block at {place} is nested more than {limit} levels deep"

/-- A fault and the byte position of the tag. -/
structure Finding where
  position : Nat
  fault : Fault
  deriving DecidableEq, Repr

namespace Finding

/-- The fault of a block tag that stands where it may not stand. -/
def stray (tag : Tag) : Finding where
  position := tag.start
  fault :=
    if tag.isElse || tag.closes?.isSome then .unexpected tag.keyword else .unknown tag.keyword

/-- The first finding in the order of positions, and the first of those at one position. -/
def earliest? : List Finding → Option Finding
  | [] => none
  | finding :: findings =>
      match earliest? findings with
      | none => some finding
      | some later => some (if later.position < finding.position then later else finding)

/-- The error that a finding stands for in a text. -/
def toError (text : Text) (finding : Finding) : TemplateError :=
  ⟨.ofPosition text finding.position, finding.fault⟩

end Finding

namespace Forest

/-- The faults of a forest. `parent` is the family of the group around it, and `elseSeen` tells
whether that group has an `else` further left. -/
def findings : (parent : Option Family) → (elseSeen : Bool) → Forest → List Finding
  | _, _, nil => []
  | parent, elseSeen, tag single rest =>
      if single.isBlock then
        if single.isElse && parent = some .conditional && !elseSeen then findings parent true rest
        else .stray single :: findings parent elseSeen rest
      else findings parent elseSeen rest
  | parent, elseSeen, group family opener body none rest =>
      ⟨opener.start, .unclosed family⟩ ::
        (findings (some family) false body ++ findings parent elseSeen rest)
  | parent, elseSeen, group family _ body (some _) rest =>
      if family = .verbatim then findings parent elseSeen rest
      else findings (some family) false body ++ findings parent elseSeen rest

/-- Where the closed verbatim blocks lie that are in no other closed verbatim block. -/
def verbatimSpans : Forest → List Span
  | nil => []
  | tag _ rest => verbatimSpans rest
  | group _ _ body none rest => verbatimSpans body ++ verbatimSpans rest
  | group family opener body (some closer) rest =>
      if family = .verbatim then ⟨opener.start, closer.stop⟩ :: verbatimSpans rest
      else verbatimSpans body ++ verbatimSpans rest

/-- All faults of a forest and of the opening delimiters that were left over. -/
def allFindings (forest : Forest) (unterminated : List Occurrence) : List Finding :=
  let exposed := unterminated.filter fun opening =>
    !forest.verbatimSpans.any (·.contains opening.position)
  forest.findings none false ++
    exposed.map fun opening => ⟨opening.position, .unterminated opening.lexeme⟩

end Forest

end Stencil

import Stencil.Forest.Strict

/-!
# Diagnostics

What a user is told about a malformed tag: a message, a label under the tag in the source, and
perhaps a hint.
-/

set_option autoImplicit false

namespace Stencil

/-- A report of a malformed tag. -/
structure Diagnostic where
  message : String
  help : Option String
  label : String
  /-- Where the label starts, as a byte position of the source. -/
  offset : Nat
  /-- The number of bytes under the label, at least one. -/
  length : Nat
  deriving DecidableEq, Repr

namespace Diagnostic

def code : String := "breakout::syntax"

/-- The bytes from a position up to the end of the closing delimiter, or up to the end of the line
if there is no closing delimiter on it. -/
def tagWidth (source : Text) (offset : Nat) (closer : Text) : Nat :=
  let line := (source.dropBytes offset).takeWhile (· != '\n')
  match Text.breakOn? closer line with
  | some (before, _) => Text.size before + closer.size
  | none => Text.size line

/-- The report of an error in a source with a closing delimiter of block tags. -/
def ofError (source : Text) (blockClose : Text) (error : TemplateError) : Diagnostic :=
  let offset := error.place.toPosition source
  let tag := tagWidth source offset blockClose
  let (width, label, help) : Nat × String × Option String :=
    match error.fault with
    | .unterminated delimiter =>
        (delimiter.size, "opened here", some "add the matching closing delimiter")
    | .unclosed family =>
        (tag, "block opened here",
          some s!"add an '{String.ofList family.closer}' tag after the block body")
    | .unexpected _ => (tag, "no open block to attach to", none)
    | .unknown _ => (tag, "unknown tag", some "known blocks are 'if', 'for' and 'raw'")
    | .tooDeep _ => (tag, "nested too deep", some "raise the limit with --max-depth")
  { message := "template error: " ++ error.message
    help := help
    label := label
    offset := offset
    length := max width 1 }

end Diagnostic

end Stencil

import Stencil.Text.Basic

/-!
# Delimiters

Four literal texts mark the tags of a template: variable tags and block tags each have one that
opens them and one that closes them. No delimiter is empty, and what opens a variable tag differs
from what opens a block tag; beyond that the four may share characters or even be equal.
-/

set_option autoImplicit false

namespace Stencil

structure Delimiters where
  variableOpen : Text
  variableClose : Text
  blockOpen : Text
  blockClose : Text
  variableOpen_ne_nil : variableOpen ≠ []
  variableClose_ne_nil : variableClose ≠ []
  blockOpen_ne_nil : blockOpen ≠ []
  blockClose_ne_nil : blockClose ≠ []
  variableOpen_ne_blockOpen : variableOpen ≠ blockOpen
  deriving DecidableEq

/-- The place of a delimiter among the four. -/
inductive DelimiterRole where
  | variableOpen | variableClose | blockOpen | blockClose
  deriving DecidableEq, Repr

def DelimiterRole.name : DelimiterRole → String
  | variableOpen => "variable open"
  | variableClose => "variable close"
  | blockOpen => "block open"
  | blockClose => "block close"

/-- Why four texts cannot serve as delimiters. -/
inductive DelimiterError where
  | empty (role : DelimiterRole)
  /-- Both kinds of tags would open with the same text. -/
  | ambiguousOpen (opener : Text)
  deriving DecidableEq, Repr

def DelimiterError.message : DelimiterError → String
  | empty role => s!"the {role.name} delimiter must not be empty"
  | ambiguousOpen opener =>
      s!"variable and block tags cannot both open with '{String.ofList opener}'"

namespace Delimiters

/-- Double braces for variables, and braces with percent signs for blocks. -/
def standard : Delimiters where
  variableOpen := ['{', '{']
  variableClose := ['}', '}']
  blockOpen := ['{', '%']
  blockClose := ['%', '}']
  variableOpen_ne_nil := by decide
  variableClose_ne_nil := by decide
  blockOpen_ne_nil := by decide
  blockClose_ne_nil := by decide
  variableOpen_ne_blockOpen := by decide

instance : Inhabited Delimiters := ⟨standard⟩

/-- Takes four texts as delimiters. An empty one is reported first, in the order of the roles. -/
def ofTexts (variableOpen variableClose blockOpen blockClose : Text) :
    Except DelimiterError Delimiters :=
  if emptyVariableOpen : variableOpen = [] then .error (.empty .variableOpen)
  else if emptyVariableClose : variableClose = [] then .error (.empty .variableClose)
  else if emptyBlockOpen : blockOpen = [] then .error (.empty .blockOpen)
  else if emptyBlockClose : blockClose = [] then .error (.empty .blockClose)
  else if same : variableOpen = blockOpen then .error (.ambiguousOpen blockOpen)
  else
    .ok ⟨variableOpen, variableClose, blockOpen, blockClose, emptyVariableOpen, emptyVariableClose,
      emptyBlockOpen, emptyBlockClose, same⟩

end Delimiters

end Stencil

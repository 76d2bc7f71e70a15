import Stencil.Delimiters
import Stencil.Json.Reader

/-!
# Delimiter configurations

A configuration is a JSON document that names a pair of texts for variable tags, one for block tags,
or both. It is an object with no other members, each at most once, or an array of at most the two
pairs in this order. A missing or null pair keeps its standard texts.
-/

set_option autoImplicit false

namespace Stencil

/-- The pairs of a delimiter configuration that replace the standard ones. -/
structure DelimiterConfig where
  variablePair : Option (Text × Text)
  blockPair : Option (Text × Text)

namespace DelimiterConfig

/-- Reads a pair of texts, or null for none. -/
def pair? : Json → Option (Option (Text × Text))
  | .null => some none
  | .array [.string opener, .string closer] => some (some (opener, closer))
  | _ => none

/-- Reads the pair of one member, which may be absent but not repeated. -/
def member? (name : Text) (members : List (Text × Json)) : Option (Option (Text × Text)) :=
  match members.filter (·.1 = name) with
  | [] => some none
  | [(_, pair)] => pair? pair
  | _ => none

def ofJson? : Json → Option DelimiterConfig
  | .object members =>
      if members.all fun (name, _) => name = "variable".toList || name = "block".toList then do
        return ⟨← member? "variable".toList members, ← member? "block".toList members⟩
      else none
  | .array [] => some ⟨none, none⟩
  | .array [variablePair] => (pair? variablePair).map (⟨·, none⟩)
  | .array [variablePair, blockPair] => do return ⟨← pair? variablePair, ← pair? blockPair⟩
  | _ => none

def read? (text : Text) : Option DelimiterConfig := (Json.read? text).bind ofJson?

def delimiters (config : DelimiterConfig) : Except DelimiterError Delimiters :=
  let standard := Delimiters.standard
  let (variableOpen, variableClose) :=
    config.variablePair.getD (standard.variableOpen, standard.variableClose)
  let (blockOpen, blockClose) := config.blockPair.getD (standard.blockOpen, standard.blockClose)
  Delimiters.ofTexts variableOpen variableClose blockOpen blockClose

end DelimiterConfig

end Stencil

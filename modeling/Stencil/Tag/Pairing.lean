import Stencil.Tag.Basic
import Stencil.Tag.Occurrence

/-!
# Pairing delimiters into tags

Each opening delimiter is paired with the first closing delimiter of its kind that starts at or
after its end. An opening delimiter inside a tag belongs to the content of that tag, and one without
a closing delimiter opens no tag.
-/

set_option autoImplicit false

namespace Stencil

/-- The tags of a text in order, and the opening delimiters that are never closed. -/
structure Pairing where
  tags : List Tag
  unterminated : List Occurrence
  deriving DecidableEq, Repr, Inhabited

namespace Delimiters

/-- The kind of tag that an opening delimiter opens. -/
def kindOf (delimiters : Delimiters) (opening : Occurrence) : TagKind :=
  if opening.lexeme = delimiters.variableOpen then .variable else .block

def closer (delimiters : Delimiters) : TagKind → Text
  | .variable => delimiters.variableClose
  | .block => delimiters.blockClose

end Delimiters

/-- The tag between an opening and a closing delimiter of a text. -/
def Tag.between (text : Text) (kind : TagKind) (opening closing : Occurrence) : Tag where
  kind := kind
  start := opening.position
  stop := closing.stop
  full := text.slice opening.position closing.stop
  content := text.slice opening.stop closing.position

namespace Pairing

/-- Closing delimiters that are still of use, by kind of tag. -/
structure Closers where
  ofVariables : List Occurrence
  ofBlocks : List Occurrence

namespace Closers

def get (closers : Closers) : TagKind → List Occurrence
  | .variable => closers.ofVariables
  | .block => closers.ofBlocks

def set (closers : Closers) (kind : TagKind) (remaining : List Occurrence) : Closers :=
  match kind with
  | .variable => { closers with ofVariables := remaining }
  | .block => { closers with ofBlocks := remaining }

/-- Sorts the closing delimiters of a text by the kinds of tags that they close. A delimiter that
both kinds share closes either. -/
def ofOccurrences (delimiters : Delimiters) (closes : List Occurrence) : Closers where
  ofVariables := closes.filter (·.lexeme = delimiters.variableClose)
  ofBlocks := closes.filter (·.lexeme = delimiters.blockClose)

end Closers

/-- Pairs opening delimiters in order. Those before `reached`, the end of the last tag, lie inside
of it. Openings come in order, so closing delimiters before the end of one are of no use to the
next. -/
def pairFrom (delimiters : Delimiters) (text : Text) :
    (opens : List Occurrence) → (closers : Closers) → (reached : Nat) → Pairing
  | [], _, _ => ⟨[], []⟩
  | opening :: opens, closers, reached =>
      if opening.position < reached then pairFrom delimiters text opens closers reached
      else
        let kind := delimiters.kindOf opening
        match (closers.get kind).dropWhile (·.position < opening.stop) with
        | [] =>
            let later := pairFrom delimiters text opens (closers.set kind []) reached
            { later with unterminated := opening :: later.unterminated }
        | closing :: remaining =>
            let later :=
              pairFrom delimiters text opens (closers.set kind (closing :: remaining)) closing.stop
            { later with tags := .between text kind opening closing :: later.tags }

def ofText (delimiters : Delimiters) (text : Text) : Pairing :=
  let scan := Scan.ofText delimiters text
  pairFrom delimiters text scan.opens (.ofOccurrences delimiters scan.closes) 0

end Pairing

end Stencil

import MarkupTemplate.Text.Blank
import MarkupTemplate.Text.Entity
import MarkupTemplate.Text.Split
import MarkupTemplate.Token.Basic

/-!
Reading a source text as a row of pieces. A comment is dropped, any other
bracket that is closed later is a token, and everything else is text. Text is decoded, and loses
one line break with its indentation on each side that touches a tag, a
comment, or an end of the source.
-/

namespace MarkupTemplate

/-- What stands at a bracket: a comment, or a token. -/
inductive Mark where
  | comment
  | token (token : Token)

/-- Layout may stand around everything but a directive. -/
def Mark.takesLayout : Mark → Bool
  | .comment => true
  | .token found => found.bracket == .angle

def Mark.pieces : Mark → List Piece
  | .comment => []
  | .token found => [.token found]

namespace Scan

def isNameChar (c : Char) : Bool := !(c == '!' || c == '>' || c == '/' || isBlank c)

/-- Splits a slash off the end of a tag. -/
def splitSlash (body : List Char) : List Char × Bool :=
  if body.getLast? = some '/' then (body.dropLast, true) else (body, false)

/-- The tag with the given text between its brackets. -/
def tagOf (inside : List Char) : Token :=
  let closing := inside.head? = some '/'
  let body := if closing then inside.drop 1 else inside
  let name := body.takeWhile isNameChar
  let (extra, alone) := splitSlash (body.dropWhile isNameChar)
  { bracket := .angle
    name := if name = [] then anonymousName else String.ofList name
    position := if closing then .closing else if alone then .alone else .opening
    source := String.ofList ('<' :: inside ++ ['>'])
    extra := String.ofList (trimEnd extra) }

def isWordChar (c : Char) : Bool := !(c == '}' || isBlank c)

def directive (position : Position) (inside name extra : List Char) : Token :=
  { bracket := .curly
    name := String.ofList name
    position
    source := String.ofList ('{' :: inside ++ ['}'])
    extra := String.ofList extra }

def block (position : Position) (inside body : List Char) : Token :=
  directive position inside (body.takeWhile isWordChar) (body.dropWhile isWordChar)

/-- The directive with the given text between its brackets. Without a marker it prints its
expression. -/
def directiveOf (inside : List Char) : Token :=
  match inside with
  | '#' :: body => block .opening inside body
  | '/' :: body => block .closing inside body
  | ':' :: body => block .continuing inside body
  | '@' :: body => directive .alone inside [] body
  | _ => directive .alone inside [] inside

/-- A comment or a tag behind an angle bracket, and its length behind the bracket. -/
def angleMark? (rest : List Char) : Option (Mark × Nat) :=
  let comment :=
    match rest with
    | '!' :: '-' :: '-' :: body => (textBefore? "-->".toList body).map fun text => text.length + 6
    | _ => none
  match comment with
  | some length => some (.comment, length)
  | none => (textBefore? ['>'] rest).map fun inside => (.token (tagOf inside), inside.length + 1)

def curlyMark? (rest : List Char) : Option (Mark × Nat) :=
  (textBefore? ['}'] rest).map fun inside => (.token (directiveOf inside), inside.length + 1)

/-- The mark at a place in the source, and its length beyond the first character. -/
def markAt? (templated : Bool) (first : Char) (rest : List Char) : Option (Mark × Nat) :=
  if first = '<' then angleMark? rest
  else if templated ∧ first = '{' then curlyMark? rest
  else none

def isIndent (c : Char) : Bool := c == ' ' || c == '\t'

def dropIndent (text : List Char) : List Char := text.dropWhile isIndent

/-- Removes a line break at the start with the spaces and tabs around it. -/
def trimBreakStart (text : List Char) : List Char :=
  match dropIndent text with
  | '\n' :: rest => dropIndent rest
  | '\r' :: '\n' :: rest => dropIndent rest
  | _ => text

/-- Removes a line break at the end with the spaces and tabs around it. -/
def trimBreakEnd (text : List Char) : List Char :=
  match dropIndent text.reverse with
  | '\n' :: '\r' :: rest => (dropIndent rest).reverse
  | '\n' :: rest => (dropIndent rest).reverse
  | _ => text

/-- The piece for a run of text, if anything is left of it. -/
def textPiece (trimsStart trimsEnd : Bool) (raw : List Char) : List Piece :=
  let decoded := Entity.unescapeChars raw
  let started := if trimsStart then trimBreakStart decoded else decoded
  let content := if trimsEnd then trimBreakEnd started else started
  if content = [] then [] else [.text (String.ofList content)]

/-- Reads on behind `skip` characters of the mark before. `layout` says whether layout may stand
before the text, `pending` holds that text in reverse. -/
def piecesAfter (templated : Bool) :
    (skip : Nat) → (layout : Bool) → (pending : List Char) → List Char → List Piece
  | _, layout, pending, [] => textPiece layout true pending.reverse
  | skip + 1, layout, pending, _ :: rest => piecesAfter templated skip layout pending rest
  | 0, layout, pending, c :: rest =>
      match markAt? templated c rest with
      | none => piecesAfter templated 0 layout (c :: pending) rest
      | some (mark, more) =>
          textPiece layout mark.takesLayout pending.reverse ++ mark.pieces ++
            piecesAfter templated more mark.takesLayout [] rest

end Scan

/-- The pieces of a source. Directives are recognised in templates only. -/
def tokenize (templated : Bool) (source : String) : List Piece :=
  Scan.piecesAfter templated 0 true [] source.toList

end MarkupTemplate

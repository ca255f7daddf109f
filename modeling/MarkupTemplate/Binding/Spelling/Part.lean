import MarkupTemplate.Text.Blank
import MarkupTemplate.Text.Quoted

/-!
The parts of a type as it is written. Blanks and comments only separate parts,
except for a comment that documents something, which stands for an attribute. A literal is one
part whatever is inside it; it loses its spaces, and keeps every other character.
-/

namespace MarkupTemplate.Spelling

/-- The parts of a type. What is never looked into is one whole: a name, a number, a literal, an
arrow, and a group once it is closed. -/
inductive Part where
  | whole (text : List Char)
  | lifetime (text : List Char)
  | mark (c : Char)
  deriving DecidableEq

namespace Part

def text : Part → List Char
  | .whole text => text
  | .lifetime text => text
  | .mark c => [c]

def ofLiteral (text : List Char) : Part := .whole (text.filter (· ≠ ' '))

/-- The attribute that a documenting comment stands for. With an exclamation mark it documents
what is around it. -/
def documentation (exclamation : List Char) (content : List Char) : Part :=
  ofLiteral ("#".toList ++ exclamation ++ "[doc=\"".toList ++
    content.flatMap (Quoted.showChar '"') ++ "\"]".toList)

end Part

/-- Characters that separate parts: blanks and the two marks of writing direction. -/
def isSeparator (c : Char) : Bool := isBlank c || c == '\u200E' || c == '\u200F'

def isNamePart (c : Char) : Bool :=
  c.isAlphanum || c == '_' || (128 ≤ c.toNat && !isSeparator c)

/-- The name or number at the start of a text. A raw name has a mark in front. -/
def nameOf : List Char → List Char
  | 'r' :: '#' :: rest => 'r' :: '#' :: rest.takeWhile isNamePart
  | text => text.takeWhile isNamePart

/-- The length of a block comment behind its first mark, inside so many other comments. -/
def commentLength : Nat → List Char → Nat
  | _, [] => 0
  | depth, '/' :: '*' :: rest => commentLength (depth + 1) rest + 2
  | 0, '*' :: '/' :: _ => 2
  | depth + 1, '*' :: '/' :: rest => commentLength depth rest + 2
  | depth, _ :: rest => commentLength depth rest + 1

/-- A comment documents if its mark is followed by an exclamation mark, or is repeated exactly
once. -/
def documentationOf? (mark : Char) (content ending : List Char) : Option Part :=
  match content with
  | [] => none
  | c :: rest =>
      if c = '!' then some (.documentation ['!'] rest)
      else if c = mark ∧ (rest ++ ending).head? ≠ some mark then some (.documentation [] rest)
      else none

def lineComment (rest : List Char) : Option Part × Nat :=
  let line := rest.takeWhile (· ≠ '\n')
  (documentationOf? '/' (dropEndWhile (· = '\r') line) [], line.length)

def blockComment (rest : List Char) : Option Part × Nat :=
  let length := commentLength 0 rest
  (documentationOf? '*' (rest.take (length - 2)) ['*', '/'], length)

/-- The length of a literal behind its first quote. -/
def literalLength (quote : Char) : List Char → Nat
  | [] => 0
  | '\\' :: _ :: rest => literalLength quote rest + 2
  | c :: rest => if c = quote then 1 else literalLength quote rest + 1

/-- The length of a raw literal behind its first quote: as many number signs as before that quote
stand behind the last one. -/
def rawLength (signs : Nat) : List Char → Nat
  | [] => 0
  | c :: rest =>
      if c = '"' ∧ rest.take signs = List.replicate signs '#' then signs + 1
      else rawLength signs rest + 1

/-- The length of the raw literal at the start of a text. -/
def rawLiteralLength? (text : List Char) : Option Nat :=
  let letters := text.takeWhile isNamePart
  let signs := ((text.drop letters.length).takeWhile (· = '#')).length
  match text.drop (letters.length + signs) with
  | '"' :: content =>
      if ["r", "br", "cr"].contains (String.ofList letters) then
        some (letters.length + signs + 1 + rawLength signs content)
      else none
  | _ => none

/-- The part behind an apostrophe: a character and another apostrophe, or the name of a
lifetime. -/
def quotedOrLifetime (rest : List Char) : Part × Nat :=
  let character (length : Nat) : Part × Nat := (.ofLiteral ('\'' :: rest.take length), length)
  match rest with
  | '\\' :: _ => character (literalLength '\'' rest)
  | _ :: '\'' :: _ => character 2
  | _ => (.lifetime ('\'' :: nameOf rest), (nameOf rest).length)

/-- The part at the start of a text, or nothing where a blank or a comment stands there, and the
number of characters that belong to it beyond the first. -/
def scan (first : Char) (rest : List Char) : Option Part × Nat :=
  match first, rest with
  | '/', '/' :: comment => (lineComment comment).map id (· + 1)
  | '/', '*' :: comment => (blockComment comment).map id (· + 1)
  | '-', '>' :: _ => (some (.whole ['-', '>']), 1)
  | '"', _ =>
      let length := literalLength first rest
      (some (.ofLiteral (first :: rest.take length)), length)
  | '\'', _ => (quotedOrLifetime rest).map some id
  | _, _ =>
      match rawLiteralLength? (first :: rest) with
      | some length => (some (.ofLiteral ((first :: rest).take length)), length - 1)
      | none =>
          if isSeparator first then (none, 0)
          else if isNamePart first then
            let name := nameOf (first :: rest)
            (some (.whole name), name.length - 1)
          else (some (.mark first), 0)

/-- The parts of a text of which `skip` characters are already consumed. -/
def partsAfter : Nat → List Char → List Part
  | _, [] => []
  | skip + 1, _ :: rest => partsAfter skip rest
  | 0, first :: rest =>
      let (part, more) := scan first rest
      part.toList ++ partsAfter more rest

end MarkupTemplate.Spelling

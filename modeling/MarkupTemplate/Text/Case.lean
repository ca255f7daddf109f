import MarkupTemplate.Text.Lowercase
import MarkupTemplate.Text.Substitution

/-!
Spellings of a compound name: `dataId`, `data-id` and `data_id`. Capitals are
the ASCII capitals; only the first character of a name is lowered by its full
Unicode mapping. A capital at the very start, or after a line feed, opens no new word.
-/

namespace MarkupTemplate

def uncapitalizeChars : List Char → List Char
  | [] => []
  | first :: rest => lowercase first ++ rest

def camelRule : Substitution
  | mark :: letter :: _ =>
      if (mark = '_' ∨ mark = '-') ∧ letter.isLower then some ([letter.toUpper], 1) else none
  | _ => none

/-- One character and the whole run of capitals behind it become a word boundary. -/
def paramRule : Substitution
  | [] => none
  | head :: rest =>
      match rest.takeWhile Char.isUpper with
      | [] => none
      | capitals =>
          if head = '\n' then none
          else some (head :: '-' :: capitals.map Char.toLower, capitals.length)

/-- One character and a single capital behind it become a word boundary. -/
def snakeRule : Substitution
  | head :: capital :: _ =>
      if head ≠ '\n' ∧ capital.isUpper then some ([head, '_', capital.toLower], 1) else none
  | _ => none

def replaceChar (old new : Char) (text : List Char) : List Char :=
  text.map fun c => if c = old then new else c

def camelChars (text : List Char) : List Char := substitute camelRule text

def paramChars (text : List Char) : List Char :=
  substitute paramRule (replaceChar '_' '-' (uncapitalizeChars text))

def snakeChars (text : List Char) : List Char :=
  substitute snakeRule (replaceChar '-' '_' (uncapitalizeChars text))

/-- Lowers the first character. -/
def uncapitalize (text : String) : String := String.ofList (uncapitalizeChars text.toList)

/-- `data-id` and `data_id` become `dataId`. -/
def camelCase (text : String) : String := String.ofList (camelChars text.toList)

/-- `fooBar`, `FooBar` and `foo_bar` become `foo-bar`. -/
def paramCase (text : String) : String := String.ofList (paramChars text.toList)

/-- `fooBar`, `FooBar` and `foo-bar` become `foo_bar`. -/
def snakeCase (text : String) : String := String.ofList (snakeChars text.toList)

end MarkupTemplate

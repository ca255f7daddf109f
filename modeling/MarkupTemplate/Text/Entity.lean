import MarkupTemplate.Text.Digits
import MarkupTemplate.Text.Substitution

/-!
Entities of the markup. Writing replaces `&`, `<`, `>` and, inside a quoted
attribute, the double quote. Reading decodes these and numeric references in
six passes over the whole text. The two numeric passes leave the plain references
to the ampersand alone, and the last pass resolves them, so that such a reference
never starts a second entity.
-/

namespace MarkupTemplate.Entity

def escapeChar (quoted : Bool) (c : Char) : List Char :=
  if c = '&' then "&amp;".toList
  else if c = '<' then "&lt;".toList
  else if c = '>' then "&gt;".toList
  else if c = '"' ∧ quoted then "&quot;".toList
  else [c]

def escapeChars (quoted : Bool) (text : List Char) : List Char :=
  text.flatMap (escapeChar quoted)

/-- One entity with a name, semicolon included. -/
def named (name : List Char) (c : Char) : Substitution
  | '&' :: body => if name.isPrefixOf body then some ([c], name.length) else none
  | _ => none

/-- A lower-case digit of the base, the only form that a reference admits. -/
def isReferenceDigit (base : Nat) (c : Char) : Bool := isDigitIn base c && !c.isUpper

/-- Decodes the digits of a reference up to its semicolon; `opening` stands before the digits. -/
def reference (base : Nat) (opening ampersand body : List Char) : Option (List Char × Nat) :=
  let digits := body.takeWhile (isReferenceDigit base)
  match digits, body.dropWhile (isReferenceDigit base) with
  | [], _ => none
  | _, ';' :: _ =>
      let decoded :=
        if digits = ampersand then opening ++ digits ++ [';']
        else [characterOf (numeralValue base digits)]
      some (decoded, opening.length + digits.length)
  | _, _ => none

def decimal : Substitution
  | '&' :: '#' :: body => reference 10 ['&', '#'] ['3', '8'] body
  | _ => none

def hexadecimal : Substitution
  | '&' :: '#' :: 'x' :: body => reference 16 ['&', '#', 'x'] ['2', '6'] body
  | _ => none

def ampersand : Substitution
  | '&' :: 'a' :: 'm' :: 'p' :: ';' :: _ => some (['&'], 4)
  | '&' :: '#' :: '3' :: '8' :: ';' :: _ => some (['&'], 4)
  | '&' :: '#' :: 'x' :: '2' :: '6' :: ';' :: _ => some (['&'], 5)
  | _ => none

def names : List Substitution :=
  [named "lt;".toList '<', named "gt;".toList '>', named "quot;".toList '"']

def passes : List Substitution := names ++ [decimal, hexadecimal, ampersand]

/-- Each pass goes over what the one before it leaves. -/
def decode (passes : List Substitution) (text : List Char) : List Char :=
  passes.foldl (fun text pass => substitute pass text) text

def unescapeChars (text : List Char) : List Char := decode passes text

/-- Writes a text as markup content, or as the inside of a quoted attribute. -/
def escape (text : String) (quoted : Bool) : String :=
  String.ofList (escapeChars quoted text.toList)

/-- Decodes named and numeric entities. -/
def unescape (text : String) : String := String.ofList (unescapeChars text.toList)

end MarkupTemplate.Entity

import MarkupTemplate.Text.Blank
import MarkupTemplate.Text.Entity
import MarkupTemplate.Text.Split
import MarkupTemplate.Value.Basic

/-!
The attributes of a tag. A key runs up to a blank or an equals sign. Behind it
may stand a quoted text or, in a template, an expression between curly brackets; a bare
key means true, and false where it starts with `no-`. Whatever fits nowhere is passed over.
-/

namespace MarkupTemplate

/-- What an attribute is given as. -/
inductive Given where
  | bare
  | quoted (text : List Char)
  | expression (text : List Char)

namespace Given

def isKeyChar (c : Char) : Bool := !(c == '=' || isBlank c)

/-- The text up to a closing character. -/
def upTo (closing : Char) (rest : List Char) : Option (List Char) := textBefore? [closing] rest

/-- What stands behind a key. An expression is not empty. -/
def behindKey? (templated : Bool) : List Char → Option Given
  | '=' :: '"' :: rest => (upTo '"' rest).map quoted
  | '=' :: '\'' :: rest => (upTo '\'' rest).map quoted
  | '=' :: '{' :: rest =>
      if templated then ((upTo '}' rest).filter (· ≠ [])).map expression else none
  | _ => none

/-- How many characters stand behind the key, the equals sign and the delimiters included. -/
def length : Given → Nat
  | .bare => 0
  | .quoted text => text.length + 3
  | .expression text => text.length + 3

/-- Reads keys and what they are given as, behind `skip` characters already consumed. -/
def readAfter (templated : Bool) : Nat → List Char → List (List Char × Given)
  | _, [] => []
  | skip + 1, _ :: rest => readAfter templated skip rest
  | 0, c :: rest =>
      if isKeyChar c then
        let more := rest.takeWhile isKeyChar
        let given := (behindKey? templated (rest.drop more.length)).getD .bare
        (c :: more, given) :: readAfter templated (more.length + given.length) rest
      else readAfter templated 0 rest

/-- Key and value of an attribute; `interpolate` gives the values of expressions. -/
def entry (interpolate : String → Value) (key : List Char) : Given → String × Value
  | .bare =>
      match key with
      | 'n' :: 'o' :: '-' :: name => (String.ofList name, .bool false)
      | _ => (String.ofList key, .bool true)
  | .quoted text => (String.ofList key, .string (String.ofList (Entity.unescapeChars text)))
  | .expression text => (String.ofList key, interpolate (String.ofList text))

end Given

/-- The attributes that the text of a tag gives, a later one replacing an earlier one of its key. -/
def readAttrs (templated : Bool) (interpolate : String → Value) (extra : String) : Dict Value :=
  Dict.ofList ((Given.readAfter templated 0 extra.toList).map fun (key, given) =>
    Given.entry interpolate key given)

end MarkupTemplate

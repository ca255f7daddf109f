import MarkupTemplate.Binary64.Layout
import MarkupTemplate.Dict

/-!
JSON documents and their compact text. Integers and floats are told apart; a
float always has a point or an exponent, so that its text stays a float. Objects
hold their members in ascending order of their names.
-/

namespace MarkupTemplate

inductive Json where
  | null
  | bool (truth : Bool)
  | int (number : Int64)
  | float (number : Binary64)
  | string (text : String)
  | array (items : List Json)
  | object (members : List (String × Json))

namespace Json

def escapeChar (c : Char) : List Char :=
  if c = '"' ∨ c = '\\' then ['\\', c]
  else if c = '\x08' then ['\\', 'b']
  else if c = '\x0C' then ['\\', 'f']
  else if c = '\n' then ['\\', 'n']
  else if c = '\r' then ['\\', 'r']
  else if c = '\t' then ['\\', 't']
  else if c.toNat < 16 then "\\u000".toList ++ numeral 16 c.toNat
  else if c.toNat < 32 then "\\u00".toList ++ numeral 16 c.toNat
  else [c]

def stringText (text : String) : List Char := '"' :: text.toList.flatMap escapeChar ++ ['"']

/-- Plain from `0.00001` to below ten to the sixteenth; of two nearest texts the even one. -/
def floatLayout : FloatLayout :=
  ⟨.even, fun exponent => -5 ≤ exponent ∧ exponent < 16, true, true⟩

def separated : List (List Char) → List Char
  | [] => []
  | [last] => last
  | item :: rest => item ++ ',' :: separated rest

mutual

def chars : Json → List Char
  | .null => "null".toList
  | .bool truth => if truth then "true".toList else "false".toList
  | .int number => intText number.toInt
  | .float number => floatLayout.text number
  | .string text => stringText text
  | .array items => '[' :: separated (itemTexts items) ++ [']']
  | .object members => '{' :: separated (memberTexts members) ++ ['}']

def itemTexts : List Json → List (List Char)
  | [] => []
  | item :: rest => chars item :: itemTexts rest

def memberTexts : List (String × Json) → List (List Char)
  | [] => []
  | (name, member) :: rest => (stringText name ++ ':' :: chars member) :: memberTexts rest

end

def compact (document : Json) : String := String.ofList (chars document)

end Json

end MarkupTemplate

import MarkupTemplate.Text.Digits
import MarkupTemplate.Text.Printable

/-!
Texts and characters between quotes, as messages and dumps show them. The
quote, the backslash and the common controls have a short escape; whatever is not printable,
and every mark that would merge with its neighbour, is shown by its number.
-/

namespace MarkupTemplate.Quoted

def showChar (quote : Char) (c : Char) : List Char :=
  if c = '\x00' then ['\\', '0']
  else if c = '\t' then ['\\', 't']
  else if c = '\r' then ['\\', 'r']
  else if c = '\n' then ['\\', 'n']
  else if c = '\\' ∨ c = quote then ['\\', c]
  else if isPrintable c && !extendsGrapheme c then [c]
  else "\\u\x7b".toList ++ numeral 16 c.toNat ++ ['}']

def text (content : String) : String :=
  String.ofList ('"' :: content.toList.flatMap (showChar '"') ++ ['"'])

def char (c : Char) : String := String.ofList ('\'' :: showChar '\'' c ++ ['\''])

end MarkupTemplate.Quoted

import MarkupTemplate.Element.Basic
import MarkupTemplate.Text.Entity

/-!
The markup of elements. Attributes are written in ascending order of their keys,
under the dashed spelling of the key; a truth value is written as the bare key, with a
leading `no-` for false. The plain text of an element is the content of all texts in it.
-/

namespace MarkupTemplate.Element

def attrMarkup (entry : String × Value) : String :=
  match entry.2 with
  | .null => ""
  | .bool true => " " ++ paramCase entry.1
  | .bool false => " no-" ++ paramCase entry.1
  | value => " " ++ paramCase entry.1 ++ "=\"" ++ Entity.escape value.display true ++ "\""

def attrsMarkup (attrs : Dict Value) : String :=
  String.join ((Dict.ascending attrs).map attrMarkup)

/-- The content that the attributes of a text element give. -/
def contentOf (attrs : Dict Value) : String :=
  match Dict.find textKey attrs with
  | some content => content.display
  | none => ""

mutual

def markup : Element → String
  | ⟨kind, attrs, children⟩ =>
      if kind = textKind then Entity.escape (contentOf attrs) false
      else if children.isEmpty then "<" ++ kind ++ attrsMarkup attrs ++ "/>"
      else "<" ++ kind ++ attrsMarkup attrs ++ ">" ++ allMarkup children ++ "</" ++ kind ++ ">"

/-- The markup of elements one after another. -/
def allMarkup : List Element → String
  | [] => ""
  | element :: rest => markup element ++ allMarkup rest

end

mutual

def plainText : Element → String
  | ⟨kind, attrs, children⟩ =>
      if kind = textKind then contentOf attrs else allPlainText children

def allPlainText : List Element → String
  | [] => ""
  | element :: rest => plainText element ++ allPlainText rest

end

end MarkupTemplate.Element

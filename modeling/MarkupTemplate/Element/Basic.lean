import MarkupTemplate.Text.Case
import MarkupTemplate.Value.Text

/-!
Elements, the trees that templates produce. The keys of attributes are in camel
case, none has the value null, and children come last. A text is an element of
the kind `text` that holds its content in the attribute of that name.
-/

namespace MarkupTemplate

structure Element where
  kind : String
  attrs : List (String × Value)
  children : List Element

namespace Element

def textKind : String := "text"

def textKey : String := "text"

def contentKey : String := "content"

def childrenKey : String := "children"

def isText (element : Element) : Bool := element.kind == textKind

def attr (key : String) (element : Element) : Option Value := Dict.find key element.attrs

def push (element child : Element) : Element :=
  { element with children := element.children ++ [child] }

/-- The text element with the given content. -/
def ofText (content : String) : Element := ⟨textKind, [(textKey, .string content)], []⟩

/-- The text of a scalar value; null, the empty string and collections have none. -/
def ofScalar? : Value → Option Element
  | .bool truth => some (ofText (Value.bool truth).display)
  | .int number => some (ofText (Value.int number).display)
  | .float number => some (ofText (Value.float number).display)
  | .string content => if content = "" then none else some (ofText content)
  | _ => none

/-- The texts of a value, those of its items where it is a list. -/
def ofValue : Value → List Element
  | .list items => items.filterMap ofScalar?
  | value => (ofScalar? value).toList

/-- The attributes that an element keeps, under their camel-case keys. -/
def keptAttrs (attrs : List (String × Value)) : Dict Value :=
  Dict.ofList ((attrs.filter fun entry => !entry.2.isNull && entry.1 != childrenKey).map
    fun entry => (camelCase entry.1, entry.2))

/-- The children given by an attribute. -/
def attrChildren (attrs : List (String × Value)) : List Element :=
  (attrs.filter fun entry => entry.1 == childrenKey).flatMap fun entry => ofValue entry.2

/-- Gives a text element its content: the one under another key, or the empty one where it has no
attribute. -/
def withContent (attrs : Dict Value) : Dict Value :=
  match Dict.find contentKey attrs with
  | some content => Dict.insert textKey content (Dict.erase contentKey attrs)
  | none => if attrs.isEmpty then [(textKey, .string "")] else attrs

/-- Builds an element from attributes as they were written. -/
def new (kind : String) (attrs : List (String × Value)) (children : List Element) : Element :=
  let kept := keptAttrs attrs
  ⟨kind, if kind = textKind then withContent kept else kept, attrChildren attrs ++ children⟩

end Element

end MarkupTemplate
